import SpanSearch.Proofs.AssembledQuery
import SpanSearch.Proofs.SessionRuns

/-! The filters that commands build. An entered filter is built only if it compiles, and it can be stored as it is.
    A percentile filter is read back without the bounds that are not finite, and can then be stored as it is. -/

namespace SpanSearch

/-! ### Documents whose numbers are read back -/

theorem Json.lossless_record {entries : List (String × Option Json)} :
    (record entries).Lossless ↔ ∀ e ∈ entries, ∀ j ∈ e.2, j.Lossless := by
  rw [record, lossless_object]
  constructor
  · exact fun h e he j hj => h (e.1, j) (mem_members.mpr (hj ▸ he))
  · exact fun h m hm => h _ (mem_members.mp hm) m.2 rfl

theorem StoredFilter.lossless_json (s : StoredFilter) : s.json.Lossless ↔
    (∀ v, s.value = some v → v.json.Lossless) ∧ ∀ q, s.query = some q → q.query.json.Lossless := by
  rw [json_eq, Json.lossless_record]
  constructor
  · intro h
    refine ⟨fun v hv => h ("value", some v.json) (by simp [entries, hv]) _ rfl, fun q hq => ?_⟩
    have written := h ("DSL", some q.json) (by simp [entries, hq]) _ rfl
    exact Json.lossless_single.mp written
  · rintro ⟨value, query⟩ e he j hj
    rcases mem_entries he hj with ⟨text, rfl⟩ | ⟨b, rfl⟩ | ⟨v, hv, rfl⟩ | ⟨q, hq, rfl⟩
    · exact Json.lossless_string text
    · simp only [Json.Lossless]
    · exact value v hv
    · exact Json.lossless_single.mpr (query q hq)

theorem RangeBounds.lossless_json (b : RangeBounds) :
    b.json.Lossless ↔ ∀ v, some v ∈ b.sides → v.json.Lossless := by
  rw [json_eq, Json.lossless_record]
  constructor
  · intro h v hv
    simp only [sides, List.mem_cons, List.not_mem_nil, or_false] at hv
    rcases hv with hv | hv | hv | hv
    · exact h ("gte", some v.json) (by simp [entries, ← hv]) _ rfl
    · exact h ("gt", some v.json) (by simp [entries, ← hv]) _ rfl
    · exact h ("lte", some v.json) (by simp [entries, ← hv]) _ rfl
    · exact h ("lt", some v.json) (by simp [entries, ← hv]) _ rfl
  · intro h e he j hj
    obtain ⟨v, hv, rfl⟩ := mem_entries he hj
    exact h v hv

theorem MinimumMatch.lossless_json (m : MinimumMatch) : m.json.Lossless := by
  cases m with
  | count n => simp only [json, Json.Lossless, Number.readsBack_whole]
  | expression text => exact Json.lossless_string text

theorem Clause.lossless_bool (body : BoolClause) :
    (Clause.bool body).json.Lossless ↔ ∀ c ∈ body.clauses, c.json.Lossless := by
  rw [json, Json.lossless_single, BoolClause.json_eq, Json.lossless_record]
  constructor
  · intro h c hc
    obtain ⟨cs, hcs, hc⟩ := List.mem_flatten.mp hc
    obtain ⟨name, entry⟩ := BoolClause.exists_entry hcs
    exact Json.lossless_array.mp (h _ entry _ rfl) _ (List.mem_map_of_mem hc)
  · intro h e he j hj
    rcases BoolClause.mem_entries he hj with ⟨cs, hcs, rfl⟩ | ⟨m, rfl⟩
    · rw [Json.lossless_array, List.forall_mem_map]
      exact fun c hc => h c (List.mem_flatten_of_mem hcs hc)
    · exact m.lossless_json

theorem Clause.nesting_bool_le {body : BoolClause} {n : Nat} (h : ∀ c ∈ body.clauses, c.json.nesting ≤ n) :
    (Clause.bool body).json.nesting ≤ n + 3 := by
  rw [json, Json.nesting_single_le, BoolClause.json_eq, Json.nesting_record_le]
  intro e he j hj
  rcases BoolClause.mem_entries he hj with ⟨cs, hcs, rfl⟩ | ⟨m, rfl⟩
  · rw [Json.nesting_array_le, List.forall_mem_map]
    exact fun c hc => h c (List.mem_flatten_of_mem hcs hc)
  · cases m <;> exact Nat.zero_le _

/-! ### Entered filters -/

namespace Command
variable {field : String} {operator : Operator} {value upper : Option String} {inverted disabled : Bool}
  {f : AuthoredFilter}

theorem filterOf_cases (h : filterOf field operator value upper inverted disabled = .ok f) :
    (∃ c, f.clause = .ok c) ∧
      ∀ v, f.value = some v → (∃ r, v = .range r) ∨ ∃ s, v = .scalar (.ofString s) := by
  simp only [filterOf] at h
  generalize given : AuthoredFilter.clause _ = clause at h
  cases clause with
  | error e => cases h
  | ok c =>
    cases h
    refine ⟨⟨c, given⟩, fun v hv => ?_⟩
    cases upper with
    | some upper =>
      cases hv
      exact .inl ⟨_, rfl⟩
    | none =>
      cases value with
      | some s =>
        cases hv
        exact .inr ⟨s, rfl⟩
      | none => cases hv

/-- An entered filter can be stored as it is. -/
theorem storable_of_filterOf (h : filterOf field operator value upper inverted disabled = .ok f) :
    (Filter.authored f).Storable := by
  obtain ⟨-, value⟩ := filterOf_cases h
  refine .of_read (Filter.read_json fun v hv => ?_) ?_ ?_
  · rcases value v hv with ⟨r, rfl⟩ | ⟨s, rfl⟩
    · trivial
    · exact FilterValue.canonical_ofString s
  · rw [Filter.json, StoredFilter.lossless_json]
    refine ⟨fun v hv => ?_, fun q hq => by cases hq⟩
    rcases value v hv with ⟨r, rfl⟩ | ⟨s, rfl⟩
    · simp [FilterValue.json, RangeValue.json, Json.lossless_object, Json.lossless_string]
    · exact Json.lossless_string s
  · refine StoredFilter.nesting_json_le (fun v hv => ?_) (fun q hq => by cases hq)
    rcases value v hv with ⟨r, rfl⟩ | ⟨s, rfl⟩
    · rw [FilterValue.json, RangeValue.json, Json.nesting_object_le]
      simp [Json.nesting]
    · exact Nat.zero_le _

end Command

/-! ### Percentile filters -/

/-- The bounds that are finite. -/
def DurationFilter.finiteOnly (d : DurationFilter) : DurationFilter where
  gte := d.gte.filter (·.finite?.isSome)
  lte := d.lte.filter (·.finite?.isSome)

/-- The selection without bounds that are not finite. -/
def PercentileInput.finiteOnly (input : PercentileInput) : PercentileInput :=
  { input with duration := input.duration.finiteOnly }

namespace DurationFilter

/-! The whole number of a double is a quotient by a large power of two. It stands for any value in the first two
lemmas, so that nothing evaluates it. -/

theorem number_of_whole (o : Option Whole) (x : Double) :
    ∃ n : Number, (match o with
      | some n => Value.ofNumber (.whole n)
      | none => .ofNumber (.double x)) = .ofNumber n := by
  cases o with
  | none => exact ⟨_, rfl⟩
  | some n => exact ⟨_, rfl⟩

theorem value_of_finite {f : Double → Value} (number : ∀ x, ∃ n : Number, f x = .ofNumber n) (b : Binary64) :
    (b.finite?.isSome = true ∧ ∃ n : Number, (match b with
      | .finite x => f x
      | _ => .null) = .ofNumber n) ∨
    (b.finite?.isSome = false ∧ (match b with
      | .finite x => f x
      | _ => .null) = .null) := by
  cases b with
  | finite x => exact .inl ⟨rfl, number x⟩
  | infinite | nan => exact .inr ⟨rfl, rfl⟩

/-- A bound is written as a number just if it is finite. -/
theorem boundValue_cases (b : Binary64) :
    (b.finite?.isSome = true ∧ ∃ n, boundValue b = .ofNumber n) ∨
      (b.finite?.isSome = false ∧ boundValue b = .null) := by
  rw [boundValue.eq_def]
  exact value_of_finite (fun x => number_of_whole _ x) b

theorem isNull_boundValue (b : Binary64) : (boundValue b).isNull = !b.finite?.isSome := by
  rcases boundValue_cases b with ⟨finite, n, same⟩ | ⟨finite, same⟩
  · rw [finite, same]
    rfl
  · rw [finite, same]
    rfl

theorem nesting_boundValue (b : Binary64) : (boundValue b).json.nesting = 0 := by
  rcases boundValue_cases b with ⟨-, n, same⟩ | ⟨-, same⟩
  · rw [same]
    rfl
  · rw [same]
    rfl

theorem nesting_bounds (d : DurationFilter) : d.bounds.json.nesting ≤ 1 := by
  rw [RangeBounds.json_eq, Json.nesting_record_le]
  intro e he j hj
  obtain ⟨v, hv, rfl⟩ := RangeBounds.mem_entries he hj
  have bound : ∃ b, v = boundValue b := by
    simp only [bounds, RangeBounds.sides, List.mem_cons, List.not_mem_nil, or_false] at hv
    rcases hv with hv | hv | hv | hv
    · obtain ⟨b, -, rfl⟩ := Option.map_eq_some_iff.mp hv.symm
      exact ⟨b, rfl⟩
    · cases hv
    · obtain ⟨b, -, rfl⟩ := Option.map_eq_some_iff.mp hv.symm
      exact ⟨b, rfl⟩
    · cases hv
  obtain ⟨b, rfl⟩ := bound
  exact Nat.le_of_eq (nesting_boundValue b)

theorem bounds_finiteOnly (d : DurationFilter) : d.finiteOnly.bounds = d.bounds.dropNulls := by
  have side : ∀ o : Option Binary64,
      (o.filter (·.finite?.isSome)).map boundValue = (o.map boundValue).filter (!·.isNull) := by
    intro o
    cases o with
    | none => rfl
    | some x =>
      rw [Option.map_some, Option.filter_some, Option.filter_some, isNull_boundValue, Bool.not_not]
      split <;> rfl
  simp only [bounds, finiteOnly, side, RangeBounds.dropNulls]
  rfl

end DurationFilter

/-- The clause of a selection is read back without bounds that are not finite. -/
theorem PercentileInput.read_clause_json (fields : Fields) (input : PercentileInput) :
    Clause.read (input.clause fields).json = input.finiteOnly.clause fields := by
  have term (field : String) (v : Value) :
      Clause.read (Clause.term field (.explicit v)).json = .term field (.explicit v) :=
    Clause.read_json (by simp [Clause.Canonical, TermValue.Canonical])
  have range (field : String) (b : RangeBounds) :
      Clause.read (Clause.range field b).json = .range field b.dropNulls := Clause.read_range_json field b
  rw [clause, Clause.read_bool_json]
  simp only [BoolClause.map, BoolClause.addMust, List.map_append, List.map_cons, List.map_nil, term, range, clause,
    finiteOnly, DurationFilter.bounds_finiteOnly]
  rfl

theorem Filter.read_json_ofSelections (fields : Fields) (inputs : List PercentileInput) (condition : String) :
    Filter.read (Filter.synthesized (.ofSelections fields inputs condition)).json =
      .ok (.synthesized (.ofSelections fields (inputs.map (·.finiteOnly)) condition)) := by
  rw [read_json_synthesized]
  have clauses : (inputs.map (·.clause fields)).map (fun c => Clause.read c.json) =
      (inputs.map (·.finiteOnly)).map (·.clause fields) := by
    rw [List.map_map, List.map_map]
    exact List.map_congr_left fun input _ => input.read_clause_json fields
  simp only [SynthesizedFilter.ofSelections, BoolClause.map, clauses]
  rfl

theorem RangeBounds.lossless_dropNulls {b : RangeBounds} (h : b.json.Lossless) : b.dropNulls.json.Lossless := by
  have kept : ∀ v, some v ∈ b.dropNulls.sides → some v ∈ b.sides := by
    intro v hv
    have side : ∀ o : Option Value, some v = o.filter (!·.isNull) → some v = o := fun o ho =>
      (Option.filter_eq_some_iff.mp ho.symm).1.symm
    simp only [sides, dropNulls, List.mem_cons, List.not_mem_nil, or_false] at hv ⊢
    exact hv.imp (side _) fun hv => hv.imp (side _) fun hv => hv.imp (side _) (side _)
  rw [lossless_json] at h ⊢
  exact fun v hv => h v (kept v hv)

section Selections
variable (fields : Fields) (inputs : List PercentileInput) (condition : String)

/-- The two clauses of a selection. -/
theorem PercentileInput.clauses_eq (input : PercentileInput) : ∃ body, input.clause fields = .bool body ∧
    body.clauses = [.term fields.traceGroup (.explicit (.ofString input.traceGroup)),
      .range fields.duration input.duration.bounds] :=
  ⟨_, rfl, rfl⟩

theorem SynthesizedFilter.clauses_ofSelections :
    (ofSelections fields inputs condition).fragment.clauses = inputs.map (·.clause fields) := by
  simp only [ofSelections, BoolClause.clauses, BoolClause.lists, List.flatten_cons, List.flatten_nil]
  exact List.append_nil _

/-- The numbers of a percentile filter are its bounds. -/
theorem Filter.lossless_ofSelections :
    (Filter.synthesized (.ofSelections fields inputs condition)).json.Lossless ↔
      ∀ input ∈ inputs, input.duration.bounds.json.Lossless := by
  have clause (input : PercentileInput) :
      (input.clause fields).json.Lossless ↔ input.duration.bounds.json.Lossless := by
    obtain ⟨body, same, clauses⟩ := input.clauses_eq fields
    rw [same, Clause.lossless_bool, clauses]
    simp [Clause.json, TermValue.json, Value.ofString, Json.lossless_single, Json.lossless_string]
  have query : ∀ q, (Filter.synthesized (.ofSelections fields inputs condition)).stored.query = some q →
      (q.query.json.Lossless ↔ ∀ input ∈ inputs, input.duration.bounds.json.Lossless) := by
    intro q hq
    cases hq
    rw [Clause.lossless_bool, SynthesizedFilter.clauses_ofSelections, List.forall_mem_map]
    exact forall₂_congr fun input _ => clause input
  rw [json, StoredFilter.lossless_json]
  constructor
  · exact fun h => (query _ rfl).mp (h.2 _ rfl)
  · refine fun h => ⟨fun v hv => ?_, fun q hq => (query q hq).mpr h⟩
    cases hv
    exact Json.lossless_string condition

theorem Filter.nesting_ofSelections :
    (Filter.synthesized (.ofSelections fields inputs condition)).json.nesting ≤ 126 := by
  have clause (input : PercentileInput) : (input.clause fields).json.nesting ≤ 6 := by
    obtain ⟨body, same, clauses⟩ := input.clauses_eq fields
    rw [same]
    refine Clause.nesting_bool_le ?_
    rw [clauses, List.forall_mem_cons, List.forall_mem_singleton, Clause.json, Clause.json, Json.nesting_single_le,
      Json.nesting_single_le, Json.nesting_single_le, Json.nesting_single_le]
    exact ⟨Nat.le_refl 1, input.duration.nesting_bounds⟩
  refine StoredFilter.nesting_json_le (fun v hv => ?_) (fun q hq => ?_)
  · cases hv
    exact Nat.zero_le _
  · cases hq
    rw [SearchQuery.json, Json.nesting_single_le]
    refine Nat.le_trans (@Clause.nesting_bool_le _ 6 ?_) (by decide)
    rw [SynthesizedFilter.clauses_ofSelections, List.forall_mem_map]
    exact fun input _ => clause input

end Selections

/-- The percentile filter without bounds that are not finite. -/
def SynthesizedFilter.ofFinitePercentiles (fields : Fields) (condition : PercentileCondition)
    (percentiles : List (String × Binary64)) : SynthesizedFilter :=
  ofSelections fields
    (percentiles.map fun (group, millis) => PercentileInput.finiteOnly ⟨group, .ofCondition condition millis⟩)
    condition.text

section Percentiles
variable {fields : Fields} {condition : PercentileCondition} {percentiles : List (String × Binary64)}

/-- A percentile filter is read back without the bounds that are not finite. -/
theorem Filter.read_json_eq_ofFinitePercentiles :
    read (synthesized (.ofPercentiles fields condition percentiles)).json =
      .ok (.synthesized (.ofFinitePercentiles fields condition percentiles)) := by
  rw [SynthesizedFilter.ofPercentiles, read_json_ofSelections, List.map_map]
  rfl

theorem Filter.lossless_ofFinitePercentiles
    (lossless : (synthesized (.ofPercentiles fields condition percentiles)).json.Lossless) :
    (synthesized (.ofFinitePercentiles fields condition percentiles)).json.Lossless := by
  rw [SynthesizedFilter.ofPercentiles, lossless_ofSelections, List.forall_mem_map] at lossless
  rw [SynthesizedFilter.ofFinitePercentiles, lossless_ofSelections, List.forall_mem_map]
  rintro ⟨group, millis⟩ hp
  simp only [PercentileInput.finiteOnly, DurationFilter.bounds_finiteOnly]
  exact RangeBounds.lossless_dropNulls (lossless _ hp)

/-- A percentile filter whose numbers are read back can be listed. It is read back without the bounds that are not
    finite, and can then be stored as it is. -/
theorem Filter.listable_ofPercentiles
    (lossless : (synthesized (.ofPercentiles fields condition percentiles)).json.Lossless) :
    (synthesized (.ofPercentiles fields condition percentiles)).Listable ∧
      (synthesized (.ofPercentiles fields condition percentiles)).reread =
        .synthesized (.ofFinitePercentiles fields condition percentiles) ∧
      (synthesized (.ofFinitePercentiles fields condition percentiles)).Storable := by
  have read := @read_json_eq_ofFinitePercentiles fields condition percentiles
  have reread := reread_eq read
  refine ⟨⟨reread.symm ▸ read, lossless, nesting_ofSelections fields _ condition.text⟩, reread, ?_⟩
  exact .of_read (read_json (canonical_of_read (distinct_json _) read)) (lossless_ofFinitePercentiles lossless)
    (nesting_ofSelections fields _ condition.text)

end Percentiles

end SpanSearch
