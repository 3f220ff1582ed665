import SpanSearch.Filter.Stored
import SpanSearch.Proofs.ClauseReading

/-! Reading filters. A filter is read from a record whose members are all optional; a document without repeated
    names reads as the same filter as the value that it stands for. -/

namespace SpanSearch

/-! ### A document and its value read alike -/

section Alike
variable {j : Json}

theorem RangeValue.read?_collapse (distinct : j.Distinct) : RangeValue.read? j.collapse = RangeValue.read? j := by
  rw [RangeValue.read?, RangeValue.read?]
  rcases @Json.record?_collapse names j distinct with ⟨h, h'⟩ | ⟨members, members', h, h', same⟩
  · rw [h, h']
  · have side (name : String) : Json.required Json.string? name members' = Json.required Json.string? name members :=
      same.required fun k _ => Json.string?_collapse k
    simp only [h, h', Option.bind_eq_bind, Option.bind_some, side]

theorem FilterValue.read_collapse (distinct : j.Distinct) : FilterValue.read j.collapse = FilterValue.read j := by
  rw [FilterValue.read, FilterValue.read, RangeValue.read?_collapse distinct, Value.ofJson_collapse]

theorem StoredFilter.read?_collapse (distinct : j.Distinct) : StoredFilter.read? j.collapse = StoredFilter.read? j := by
  rw [StoredFilter.read?, StoredFilter.read?]
  rcases @Json.record?_collapse names j distinct with ⟨h, h'⟩ | ⟨members, members', h, h', same⟩
  · rw [h, h']
  · have part : ∀ name k, members.lookup name = some k → k.Distinct := fun name k hk =>
      distinct.part (Json.mem_parts_of_record? h hk)
    have text (name : String) : Json.withDefault "" Json.string? name members' =
        Json.withDefault "" Json.string? name members := same.withDefault fun k _ => Json.string?_collapse k
    have flag (name : String) : Json.withDefault false Json.bool? name members' =
        Json.withDefault false Json.bool? name members := same.withDefault fun k _ => Json.bool?_collapse k
    have value (name : String) : Json.optional (some ∘ FilterValue.read) name members' =
        Json.optional (some ∘ FilterValue.read) name members :=
      same.optional fun k hk => congrArg some (FilterValue.read_collapse (part name k hk))
    have query (name : String) : Json.optional SearchQuery.read? name members' =
        Json.optional SearchQuery.read? name members :=
      same.optional fun k hk => SearchQuery.read?_collapse (part name k hk)
    simp only [h, h', Option.bind_eq_bind, Option.bind_some, text, flag, value, query]

/-- A document without repeated names and its value read as the same filter. -/
theorem Filter.read_collapse (distinct : j.Distinct) : Filter.read j.collapse = Filter.read j := by
  rw [Filter.read, Filter.read, StoredFilter.read?_collapse distinct]

end Alike

/-! ### What has been read -/

theorem FilterValue.read_cases (j : Json) :
    (∃ r, RangeValue.read? j = some r ∧ read j = .range r) ∨
      (RangeValue.read? j = none ∧ read j = .scalar (.ofJson j)) := by
  rw [read]
  cases h : RangeValue.read? j with
  | none => exact .inr ⟨rfl, rfl⟩
  | some r => exact .inl ⟨r, rfl, rfl⟩

theorem SearchQuery.read?_cases {j : Json} {q : SearchQuery} (h : read? j = some q) :
    ∃ k ∈ j.parts, q = ⟨.read k⟩ := by
  obtain ⟨members, record, h⟩ := Option.bind_eq_some_iff.mp h
  obtain ⟨c, read, rfl⟩ := Option.map_eq_some_iff.mp h
  obtain ⟨k, held, same⟩ := Option.bind_eq_some_iff.mp read
  cases same
  exact ⟨k, Json.mem_parts_of_record? record held, rfl⟩

/-- The value and the query of a stored filter are parts of its document. -/
theorem StoredFilter.read?_parts {j : Json} {s : StoredFilter} (h : read? j = some s) :
    0 < j.nesting ∧ (∀ v, s.value = some v → ∃ k ∈ j.parts, k ≠ .null ∧ v = .read k) ∧
      ∀ q, s.query = some q → ∃ k ∈ j.parts, SearchQuery.read? k = some q := by
  obtain ⟨members, record, h⟩ := Option.bind_eq_some_iff.mp h
  simp only [Option.bind_eq_bind, Option.bind_eq_some_iff] at h
  obtain ⟨field, -, operator, -, value, hv, inverted, -, disabled, -, query, hq, h⟩ := h
  cases h
  refine ⟨Json.nesting_pos_of_record? record, fun v same => ?_, fun q same => ?_⟩
  · cases same
    obtain ⟨k, held, present, same⟩ := Json.optional_eq_some hv
    cases same
    exact ⟨k, Json.mem_parts_of_record? record held, present, rfl⟩
  · cases same
    obtain ⟨k, held, -, read⟩ := Json.optional_eq_some hq
    exact ⟨k, Json.mem_parts_of_record? record held, read⟩

theorem Filter.read_cases {j : Json} {f : Filter} (h : Filter.read j = .ok f) :
    ∃ s, StoredFilter.read? j = some s ∧
      ((∃ body, s.query = some ⟨.bool body⟩ ∧
        f = .synthesized ⟨s.field, (s.value.map (·.text)).getD "", body, s.disabled⟩) ∨
      f = .authored ⟨s.field, .ofName s.operator, s.value, s.inverted, s.disabled⟩) := by
  rw [Filter.read] at h
  split at h
  · next s read =>
    refine ⟨s, read, ?_⟩
    rw [StoredFilter.filter] at h
    split at h
    · next body query =>
      cases h
      exact .inl ⟨body, query, rfl⟩
    · cases h
    · cases h
      exact .inr rfl
  · cases h

end SpanSearch
