import SpanSearch.Proofs.ClauseNesting
import SpanSearch.Proofs.FilterReading

/-! Canonical filters: those that are read back as they are stored. Every filter that has been read from a value
    is canonical, so that a filter that has been stored once stays as it is. -/

namespace SpanSearch

/-! ### Values of filters -/

/-- The documents that read as a range: an object with both ends among its members, or an array of both ends. -/
def RangeValue.SpelledBy (r : RangeValue) (j : Json) : Prop :=
  (∃ members, j = .object members ∧ members.lookup "from" = some (.string r.lower) ∧
    members.lookup "to" = some (.string r.upper)) ∨
  j = .array [.string r.lower, .string r.upper]

/-- A single value is not `null` and does not read as a range. -/
def FilterValue.Canonical : FilterValue → Prop
  | range _ => True
  | scalar v => v.json ≠ .null ∧ ∀ r : RangeValue, ¬r.SpelledBy v.json

theorem RangeValue.read?_eq_some_iff {j : Json} {r : RangeValue} (distinct : j.Distinct) :
    read? j = some r ↔ r.SpelledBy j := by
  have ends {members : List (String × Json)} (record : j.record? names = some members) :
      read? j = some r ↔ members.lookup "from" = some (.string r.lower) ∧
        members.lookup "to" = some (.string r.upper) := by
    simp only [read?, record, ← Json.required_string?_eq_some, Option.bind_eq_bind, Option.bind_some,
      Option.bind_eq_some_iff]
    constructor
    · rintro ⟨lower, hl, upper, hu, same⟩
      cases same
      exact ⟨hl, hu⟩
    · intro spelled
      exact ⟨_, spelled.1, _, spelled.2, rfl⟩
  cases j with
  | object members =>
    rw [ends (Json.record?_object (Json.distinct_object.mp distinct).1), Json.lookup_filter_names,
      Json.lookup_filter_names, if_pos (by decide), if_pos (by decide), SpelledBy]
    constructor
    · intro spelled
      exact .inl ⟨members, rfl, spelled⟩
    · rintro (⟨members, same, hl, hu⟩ | same)
      · cases same
        exact ⟨hl, hu⟩
      · cases same
  | array items =>
    rcases items with _ | ⟨lower, _ | ⟨upper, _ | ⟨third, rest⟩⟩⟩
    · simp [read?, Json.record?, SpelledBy, Json.required]
    · have record : (Json.array [lower]).record? names = some [("from", lower)] := rfl
      rw [ends record, SpelledBy]
      simp [Entries.lookup_cons_eq_ite]
    · have record : (Json.array [lower, upper]).record? names = some [("from", lower), ("to", upper)] := rfl
      rw [ends record, SpelledBy]
      simp [Entries.lookup_cons_eq_ite]
    · simp [read?, Json.record?, SpelledBy, names]
  | _ => simp [read?, Json.record?, SpelledBy]

theorem FilterValue.canonical_read {k : Json} (distinct : k.Distinct) (present : k ≠ .null) : (read k).Canonical := by
  rcases read_cases k with ⟨r, -, same⟩ | ⟨noRange, same⟩
  · rw [same]
    trivial
  · rw [same]
    refine ⟨fun null => present (Json.collapse_eq_null.mp null), fun r spelled => ?_⟩
    have range := (RangeValue.read?_eq_some_iff k.distinct_collapse).mpr spelled
    rw [RangeValue.read?_collapse distinct, noRange] at range
    cases range

theorem FilterValue.canonical_ofString (s : String) : (scalar (.ofString s)).Canonical :=
  ⟨by simp [Value.ofString], fun r => by simp [RangeValue.SpelledBy, Value.ofString]⟩

theorem FilterValue.read_json {v : FilterValue} (h : v.Canonical) : read v.json = v := by
  cases v with
  | range r => rfl
  | scalar v =>
    rcases read_cases v.json with ⟨r, range, -⟩ | ⟨-, same⟩
    · exact absurd ((RangeValue.read?_eq_some_iff v.distinct_json).mp range) (h.2 r)
    · rw [json, same, Value.ofJson_json]

theorem FilterValue.json_ne_null {v : FilterValue} (h : v.Canonical) : v.json ≠ .null := by
  cases v with
  | range r => simp [json, RangeValue.json]
  | scalar v => exact h.1

theorem FilterValue.distinct_json (v : FilterValue) : v.json.Distinct := by
  cases v with
  | range r => simp [json, RangeValue.json, Json.distinct_object, Json.distinct_string]
  | scalar v => exact v.distinct_json

theorem FilterValue.nesting_read {k : Json} {n : Nat} (h : k.nesting ≤ n) : (read k).json.nesting ≤ n := by
  rcases read_cases k with ⟨r, range, same⟩ | ⟨-, same⟩
  · obtain ⟨members, record, -⟩ := Option.bind_eq_some_iff.mp range
    have nested := Json.nesting_pos_of_record? record
    obtain ⟨n, rfl⟩ : ∃ m, n = m + 1 := ⟨n - 1, by omega⟩
    rw [same, json, RangeValue.json, Json.nesting_object_le]
    simp [Json.nesting]
  · rw [same]
    exact nesting_ofJson h

/-! ### Filters -/

namespace StoredFilter

/-- The entries that a stored filter is written with. -/
def entries (s : StoredFilter) : List (String × Option Json) :=
  [("field", some (.string s.field)), ("operator", some (.string s.operator)), ("value", s.value.map (·.json)),
    ("inverted", some (.bool s.inverted)), ("disabled", some (.bool s.disabled)), ("DSL", s.query.map (·.json))]

theorem json_eq (s : StoredFilter) : s.json = .record s.entries :=
  rfl

theorem nodup_entries (s : StoredFilter) : (s.entries.map (·.1)).Nodup := by
  simp [entries]

theorem mem_entries {s : StoredFilter} {e : String × Option Json} {j : Json} (he : e ∈ s.entries) (hj : e.2 = some j) :
    (∃ text, j = .string text) ∨ (∃ b, j = .bool b) ∨ (∃ v, s.value = some v ∧ j = v.json) ∨
      ∃ q, s.query = some q ∧ j = q.json := by
  simp only [entries, List.mem_cons, List.not_mem_nil, or_false] at he
  rcases he with rfl | rfl | rfl | rfl | rfl | rfl
  · exact .inl ⟨s.field, (Option.some.inj hj).symm⟩
  · exact .inl ⟨s.operator, (Option.some.inj hj).symm⟩
  · obtain ⟨v, hv, rfl⟩ := Option.map_eq_some_iff.mp hj
    exact .inr (.inr (.inl ⟨v, hv, rfl⟩))
  · exact .inr (.inl ⟨s.inverted, (Option.some.inj hj).symm⟩)
  · exact .inr (.inl ⟨s.disabled, (Option.some.inj hj).symm⟩)
  · obtain ⟨q, hq, rfl⟩ := Option.map_eq_some_iff.mp hj
    exact .inr (.inr (.inr ⟨q, hq, rfl⟩))

theorem distinct_json (s : StoredFilter) : s.json.Distinct := by
  rw [json_eq]
  refine Json.distinct_record s.nodup_entries fun e he j hj => ?_
  rcases mem_entries he hj with ⟨text, rfl⟩ | ⟨b, rfl⟩ | ⟨v, -, rfl⟩ | ⟨q, -, rfl⟩
  · exact Json.distinct_string text
  · simp only [Json.Distinct]
  · exact v.distinct_json
  · exact Json.distinct_single.mpr q.query.distinct_json

theorem nesting_json_le {s : StoredFilter} {n : Nat} (value : ∀ v, s.value = some v → v.json.nesting ≤ n)
    (query : ∀ q, s.query = some q → q.json.nesting ≤ n) : s.json.nesting ≤ n + 1 := by
  rw [json_eq, Json.nesting_record_le]
  intro e he j hj
  rcases mem_entries he hj with ⟨text, rfl⟩ | ⟨b, rfl⟩ | ⟨v, hv, rfl⟩ | ⟨q, hq, rfl⟩
  · exact Nat.zero_le n
  · exact Nat.zero_le n
  · exact value v hv
  · exact query q hq

/-- A stored filter is read back, with its query as that is read. -/
theorem read?_json {s : StoredFilter} (value : ∀ v ∈ s.value, v.Canonical) :
    read? s.json = some { s with query := s.query.map fun q => ⟨.read q.query.json⟩ } := by
  obtain ⟨ms, record, held⟩ := @Json.record?_record s.entries names s.nodup_entries
  have text (name s : String) (lookup : ms.lookup name = some (.string s)) :
      Json.withDefault "" Json.string? name ms = some s := Json.withDefault_some lookup
  have flag (name : String) (b : Bool) (lookup : ms.lookup name = some (.bool b)) :
      Json.withDefault false Json.bool? name ms = some b := Json.withDefault_some lookup
  have field := text "field" s.field (held _ (by decide))
  have operator := text "operator" s.operator (held _ (by decide))
  have value : Json.optional (some ∘ FilterValue.read) "value" ms = some s.value :=
    Json.optional_same (held _ (by decide)) fun v hv =>
      ⟨congrArg some (FilterValue.read_json (value v hv)), FilterValue.json_ne_null (value v hv)⟩
  have inverted := flag "inverted" s.inverted (held _ (by decide))
  have disabled := flag "disabled" s.disabled (held _ (by decide))
  have query : Json.optional SearchQuery.read? "DSL" ms = some (s.query.map fun q => ⟨.read q.query.json⟩) :=
    Json.optional_map (held _ (by decide)) fun q _ => ⟨q.read?_json, by simp [SearchQuery.json]⟩
  rw [read?, json_eq, record]
  simp only [field, operator, value, inverted, disabled, query, Option.bind_eq_bind, Option.bind_some]

end StoredFilter

namespace Filter

/-- The value of an authored filter and the fragment of a synthesized one are canonical. -/
def Canonical : Filter → Prop
  | authored f => ∀ v ∈ f.value, v.Canonical
  | synthesized f => f.fragment.Canonical

theorem distinct_json (f : Filter) : f.json.Distinct :=
  f.stored.distinct_json

/-- A synthesized filter is read back, with its fragment as that is read. -/
theorem read_json_synthesized (f : SynthesizedFilter) : read (synthesized f).json =
    .ok (.synthesized { f with fragment := f.fragment.map fun c => .read c.json }) := by
  have value : ∀ v ∈ (synthesized f).stored.value, v.Canonical := by
    intro v hv
    cases hv
    exact FilterValue.canonical_ofString f.condition
  rw [read, json, StoredFilter.read?_json value]
  simp only [stored, Option.map_some, Clause.read_bool_json]
  rfl

theorem read_json {f : Filter} (h : f.Canonical) : read f.json = .ok f := by
  cases f with
  | authored f =>
    have value : ∀ v ∈ (authored f).stored.value, v.Canonical := h
    rw [read, json, StoredFilter.read?_json value]
    simp [stored, StoredFilter.filter]
  | synthesized f =>
    have fragment : (Clause.bool f.fragment).Canonical := by
      rw [Clause.Canonical]
      exact h
    rw [read_json_synthesized, BoolClause.map_eq_self fun c hc =>
      Clause.read_json (Clause.canonical_bool.mp fragment c hc)]

theorem canonical_of_read {j : Json} {f : Filter} (distinct : j.Distinct) (h : read j = .ok f) : f.Canonical := by
  obtain ⟨s, read, kind⟩ := read_cases h
  obtain ⟨-, value, query⟩ := StoredFilter.read?_parts read
  rcases kind with ⟨body, hq, rfl⟩ | rfl
  · obtain ⟨k, hk, read⟩ := query _ hq
    obtain ⟨i, hi, same⟩ := SearchQuery.read?_cases read
    have canonical := Clause.canonical_read ((distinct.part hk).part hi)
    have fragment : Clause.bool body = .read i := congrArg SearchQuery.query same
    rw [← fragment, Clause.Canonical] at canonical
    exact canonical
  · intro v hv
    obtain ⟨k, hk, present, rfl⟩ := value v hv
    exact FilterValue.canonical_read (distinct.part hk) present

/-- A filter is read back as it is stored just when it is canonical; what has been read from a value is, so that
    storing it and reading it again gives it once more. -/
theorem read_json_iff_canonical : (∀ f : Filter, read f.json = .ok f ↔ f.Canonical) ∧
    ∀ (v : Value) (f : Filter), read v.json = .ok f → f.Canonical ∧ read f.json = .ok f := by
  refine ⟨fun f => ⟨canonical_of_read f.distinct_json, read_json⟩, fun v f h => ?_⟩
  have canonical := canonical_of_read v.distinct_json h
  exact ⟨canonical, read_json canonical⟩

/-- A body that is written by position, with a bound that is there as `null`. -/
theorem canonical_positional_body :
    let bounds : Json := .object [("range", .object [("price", .array [.string "5", .null])])]
    let v : Value := .ofJson (.object [("DSL", .object [("query", .object [("bool", .array [.array [bounds]])])])])
    let f : Filter := .synthesized
      ⟨"", "", ⟨[.range "price" { gte := some (.ofString "5") }], [], [], [], none⟩, false⟩
    read v.json = .ok f ∧ f.Canonical ∧ read f.json = .ok f := by
  intro bounds v f
  have positional : read v.json = .ok f := rfl
  exact ⟨positional, read_json_iff_canonical.2 v f positional⟩

/-- A filter that has been read is stored no deeper than its document, unless the limit leaves two levels for
    the clause of its query. -/
theorem nesting_of_read {j : Json} {f : Filter} {n : Nat} (left : n % 3 ≠ 2) (h : read j = .ok f)
    (nested : j.nesting ≤ n + 2) : f.json.nesting ≤ n + 2 := by
  obtain ⟨s, read, kind⟩ := read_cases h
  obtain ⟨-, value, query⟩ := StoredFilter.read?_parts read
  rcases kind with ⟨body, hq, rfl⟩ | rfl
  · refine StoredFilter.nesting_json_le (fun v hv => ?_) (fun q hq' => ?_)
    · cases hv
      exact Nat.zero_le (n + 1)
    · cases hq'
      obtain ⟨k, hk, read⟩ := query _ hq
      obtain ⟨i, hi, same⟩ := SearchQuery.read?_cases read
      have deeper := Json.nesting_part hk
      have deepest := Json.nesting_part hi
      have fragment : Clause.bool body = .read i := congrArg SearchQuery.query same
      rw [SearchQuery.json, Json.nesting_single_le]
      exact fragment ▸ Clause.nesting_read left (by omega)
  · refine StoredFilter.nesting_json_le (fun v hv => ?_) (fun q hq => by cases hq)
    obtain ⟨k, hk, -, rfl⟩ := value v hv
    have deeper := Json.nesting_part hk
    exact FilterValue.nesting_read (by omega)

end Filter
end SpanSearch
