import SpanSearch.Proofs.CanonicalClauses

/-! How deep clauses are nested that have been read from a document. Only a boolean clause without lists is
    written deeper than it was, as its lists are written empty; they are nested three levels for each boolean
    clause around them, so that a document can outgrow only a limit that leaves two levels. -/

namespace SpanSearch

/-! ### Term values, bounds and strings -/

section Leaves
variable {j : Json} {n : Nat}

theorem nesting_ofJson (h : j.nesting ≤ n) : (Value.ofJson j).json.nesting ≤ n :=
  Json.nesting_collapse h

theorem TermValue.nesting_read (h : j.nesting ≤ n) : (TermValue.read j).json.nesting ≤ n := by
  rw [read_eq]
  split
  · next k held =>
    have hk : k ∈ j.parts := by
      rcases Json.lookup_closedRecord?_single.mp held with rfl | rfl
      · exact List.mem_singleton_self _
      · exact List.mem_singleton_self _
    obtain ⟨n, rfl, inner⟩ := Json.exists_of_mem_parts hk h
    exact Json.nesting_single_le.mpr (nesting_ofJson inner)
  · exact nesting_ofJson h

theorem RangeBounds.nesting_read? {b : RangeBounds} (read : RangeBounds.read? j = some b) (h : j.nesting ≤ n) :
    b.json.nesting ≤ n := by
  obtain ⟨members, closed, -⟩ := Option.bind_eq_some_iff.mp read
  have nested := Json.nesting_pos_of_record? (Json.record?_of_closedRecord? closed)
  obtain ⟨n, rfl⟩ : ∃ m, n = m + 1 := ⟨n - 1, by omega⟩
  rw [json_eq, Json.nesting_record_le]
  intro e he k hk
  obtain ⟨v, hv, rfl⟩ := mem_entries he hk
  obtain ⟨k, part, -, rfl⟩ := read?_sides read _ hv v rfl
  have deeper := Json.nesting_part part
  exact nesting_ofJson (by omega)

theorem nesting_pos_of_onlyString? {name s : String} (read : onlyString? name j = some s) : 0 < j.nesting := by
  obtain ⟨members, closed, -⟩ := Option.bind_eq_some_iff.mp read
  exact Json.nesting_pos_of_record? (Json.record?_of_closedRecord? closed)

theorem Clause.nesting_leaf? {form : String} {c : Clause} (read : leaf? form j = some c) (h : j.nesting ≤ n) :
    c.json.nesting ≤ n + 1 := by
  rcases leaf?_cases read with ⟨field, inner, -, rfl, rfl⟩ | ⟨field, inner, bounds, -, rfl, within, rfl⟩ |
    ⟨field, -, only, rfl⟩ | ⟨text, -, only, rfl⟩
  · obtain ⟨n, rfl, inner⟩ := Json.exists_of_mem_parts (List.mem_singleton_self _) h
    rw [json, Json.nesting_single_le, Json.nesting_single_le]
    exact TermValue.nesting_read inner
  · obtain ⟨n, rfl, inner⟩ := Json.exists_of_mem_parts (List.mem_singleton_self _) h
    rw [json, Json.nesting_single_le, Json.nesting_single_le]
    exact RangeBounds.nesting_read? within inner
  · have nested := nesting_pos_of_onlyString? only
    obtain ⟨n, rfl⟩ : ∃ m, n = m + 1 := ⟨n - 1, by omega⟩
    rw [json, Json.nesting_single_le, Json.nesting_single_le]
    exact Nat.zero_le n
  · have nested := nesting_pos_of_onlyString? only
    obtain ⟨n, rfl⟩ : ∃ m, n = m + 1 := ⟨n - 1, by omega⟩
    rw [json, Json.nesting_single_le, Json.nesting_single_le]
    exact Nat.zero_le n

end Leaves

/-! ### Boolean clauses -/

namespace Clause

/-- What has been read stays within a limit: a clause unless the limit leaves two levels, the body of one unless
    it leaves one, and a list of them unless it leaves none. -/
theorem nesting_readings (j : Json) : ∀ n, j.nesting ≤ n →
    (n % 3 ≠ 2 → (read j).json.nesting ≤ n) ∧
    (n % 3 ≠ 1 → ∀ body, readBool? j = some body → body.json.nesting ≤ n) ∧
    (n % 3 ≠ 0 → ∀ cs, readList? j = some cs → (Json.array (cs.map (·.json))).nesting ≤ n) := by
  induction j using Json.induction_parts with
  | step j ih =>
    intro n h
    refine ⟨fun left => ?_, fun left body read => ?_, fun left cs read => ?_⟩
    · rcases read_cases j with ⟨content, body, rfl, read, known⟩ | ⟨form, content, rfl, known⟩ | unknown
      · obtain ⟨n, rfl, inner⟩ := Json.exists_of_mem_parts (List.mem_singleton_self _) h
        rw [known, json, Json.nesting_single_le]
        exact (ih content (List.mem_singleton_self _) n inner).2.1 (by omega) body read
      · obtain ⟨n, rfl, inner⟩ := Json.exists_of_mem_parts (List.mem_singleton_self _) h
        exact nesting_leaf? known inner
      · rw [unknown]
        exact nesting_ofJson h
    · -- A body is a record and has one level at least, so that two are left for its empty lists.
      obtain ⟨members, record, -⟩ := Option.bind_eq_some_iff.mp (readBool?_eq j ▸ read)
      have nested := Json.nesting_pos_of_record? record
      obtain ⟨n, rfl⟩ : ∃ m, n = m + 2 := ⟨n - 2, by omega⟩
      rw [BoolClause.json_eq, Json.nesting_record_le]
      intro e he k hk
      rcases BoolClause.mem_entries he hk with ⟨cs, hcs, rfl⟩ | ⟨m, rfl⟩
      · rcases readBool?_lists read cs hcs with rfl | ⟨k, part, list⟩
        · simp [Json.nesting, Json.nestingItems]
        · have deeper := Json.nesting_part part
          exact (ih k part (n + 1) (by omega)).2.2 (by omega) cs list
      · cases m <;> simp [MinimumMatch.json, Json.nesting]
    · cases j with
      | array items =>
        rw [readList?_array] at read
        cases read
        obtain ⟨n, rfl, inner⟩ := Json.exists_of_nesting_array_le h
        rw [Json.nesting_array_le, List.map_map, List.forall_mem_map]
        exact fun k hk => (ih k hk n (inner k hk)).1 (by omega)
      | _ => cases read

theorem nesting_read {j : Json} {n : Nat} (left : n % 3 ≠ 2) (h : j.nesting ≤ n) : (read j).json.nesting ≤ n :=
  (nesting_readings j n h).1 left

end Clause
end SpanSearch
