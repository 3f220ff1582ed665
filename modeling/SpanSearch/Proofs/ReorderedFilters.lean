import SpanSearch.Proofs.MergedMinima

/-! Filters in another order. The order of the filters decides in which order the clauses of the assembled query
    stand, and which of several errors is reported, but not whether there is one. It decides the minimum only where a
    later one takes the place of an earlier one. -/

namespace SpanSearch

/-! ### Minima -/

namespace MergePolicy
open MinimumMatch

theorem toInt_max (a b : Int64) : (Max.max a b).toInt = Max.max a.toInt b.toInt := by
  have greater : Max.max a b = if a ≤ b then b else a := rfl
  rw [greater]
  split
  · next le => exact (Int.max_eq_right (Int64.le_iff_toInt_le.mp le)).symm
  · next gt =>
    rw [Int64.le_iff_toInt_le] at gt
    omega

theorem max_comm (a b : Int64) : Max.max a b = Max.max b a := by
  rw [← Int64.toInt_inj, toInt_max, toInt_max]
  exact Int.max_comm _ _

theorem max_right_comm (a b c : Int64) : Max.max (Max.max a b) c = Max.max (Max.max a c) b := by
  rw [← Int64.toInt_inj]
  simp only [toInt_max]
  omega

/-- Minima that are merged alike in any order: one and the same throughout, or where counts are compared, no
expression among them. -/
def OrderFree (minima : List (Option MinimumMatch)) : MergePolicy → Prop
  | last => ∀ a ∈ minima, ∀ b ∈ minima, a = b
  | max => ∀ text, some (.expression text) ∉ minima

variable {policy : MergePolicy} {minima others : List (Option MinimumMatch)}

theorem merge_right_comm (free : policy.OrderFree minima) {a b : Option MinimumMatch} (ha : a ∈ minima)
    (hb : b ∈ minima) (before : Option MinimumMatch) :
    policy.merge (policy.merge before a) b = policy.merge (policy.merge before b) a := by
  cases policy with
  | last => exact free b hb a ha
  | max =>
    rcases a with _ | m | text
    · simp [merge]
    · rcases b with _ | n | text
      · simp [merge]
      · rcases before with _ | k | text
        · exact congrArg (some <| count ·) (max_comm m n)
        · exact congrArg (some <| count ·) (max_right_comm k m n)
        · exact congrArg (some <| count ·) (max_comm m n)
      · exact absurd hb (free text)
    · exact absurd ha (free text)

theorem combined_perm (perm : minima.Perm others) (free : policy.OrderFree minima) :
    policy.combined minima = policy.combined others := by
  rw [← foldl_merge, ← foldl_merge]
  exact perm.foldl_eq' (fun a ha b hb before => merge_right_comm free ha hb before) none

end MergePolicy

/-! ### Queries -/

/-- Two bodies start with the same clauses that have to match, and hold the same other clauses in some order; none
of their clauses is unscored. -/
structure BoolClause.Rearranged (first : List Clause) (a b : BoolClause) : Prop where
  must : ∃ rest rest', a.must = first ++ rest ∧ b.must = first ++ rest' ∧ rest.Perm rest'
  mustNot : a.mustNot.Perm b.mustNot
  should : a.should.Perm b.should
  filter : a.filter = [] ∧ b.filter = []

theorem Filter.minima_perm {filters others : List Filter} (perm : filters.Perm others) :
    (minima filters).Perm (minima others) :=
  (perm.filterMap _).map _

namespace SearchQuery
variable {config : Config} {filters others : List Filter} {text : String} {range : TimeRange}

/-- The clauses of a query that no filter brings. -/
def ownClauses (config : Config) (text : String) (range : TimeRange) : List Clause :=
  range.clause config.fields.startTime :: if text.isEmpty then [] else [.queryString text]

theorem rearranged_assembledBody (perm : filters.Perm others) :
    (assembledBody config filters text range).Rearranged (ownClauses config text range)
      (assembledBody config others text range) where
  must := ⟨_, _, rfl, rfl, perm.filterMap _⟩
  mustNot := perm.filterMap _
  should := (perm.filterMap _).flatMap_right _
  filter := ⟨rfl, rfl⟩

theorem assemble_error_iff : (∃ e, (assemble config filters text range).1 = .error e) ↔ ¬∀ f ∈ filters, f.Compiles := by
  rw [assemble_eq, ← Filter.firstError?_eq_none_iff]
  cases Filter.firstError? filters <;> simp

/-- From the same filters in another order a query is assembled just if one is assembled from them in their order.
The two start with the clauses of the time range and the text, and their other clauses are the same in some order. They
have the same minimum where counts are compared and no enabled fragment has an expression, and where the last one
counts and all enabled fragments have the same. -/
theorem assemble_perm (perm : filters.Perm others) :
    ((∃ e, (assemble config filters text range).1 = .error e) ↔
      ∃ e, (assemble config others text range).1 = .error e) ∧
    ∀ q, (assemble config filters text range).1 = .ok q →
      ∃ a b, q = ⟨.bool a⟩ ∧ (assemble config others text range).1 = .ok ⟨.bool b⟩ ∧
        a.Rearranged (ownClauses config text range) b ∧
        (config.minimumMerge = .max →
          (∀ s, .synthesized s ∈ filters → s.disabled = false →
            ∀ expression, s.fragment.minimum ≠ some (.expression expression)) →
          a.minimum = b.minimum) ∧
        (config.minimumMerge = .last →
          (∀ s t, .synthesized s ∈ filters → .synthesized t ∈ filters → s.disabled = false → t.disabled = false →
            s.fragment.minimum = t.fragment.minimum) →
          a.minimum = b.minimum) := by
  have compile : (∀ f ∈ filters, f.Compiles) ↔ ∀ f ∈ others, f.Compiles :=
    forall_congr' fun f => imp_congr_left perm.mem_iff
  refine ⟨by rw [assemble_error_iff, assemble_error_iff, compile], fun q assembled => ?_⟩
  obtain ⟨compiles, rfl⟩ := assemble_eq_ok_iff.mp assembled
  have minimum (free : config.minimumMerge.OrderFree (Filter.minima filters)) :
      (assembledBody config filters text range).minimum = (assembledBody config others text range).minimum := by
    rw [minimum_assembledBody, minimum_assembledBody, MergePolicy.combined_perm (Filter.minima_perm perm) free]
  refine ⟨_, _, rfl, assemble_eq_ok_iff.mpr ⟨compile.mp compiles, rfl⟩, rearranged_assembledBody perm,
    fun policy counts => minimum ?_, fun policy same => minimum ?_⟩
  · rw [policy]
    intro expression he
    obtain ⟨s, hs, enabled, brought⟩ := Filter.mem_minima.mp he
    exact counts s hs enabled expression brought
  · rw [policy]
    intro a ha b hb
    obtain ⟨s, hs, enabled, rfl⟩ := Filter.mem_minima.mp ha
    obtain ⟨t, ht, enabled', rfl⟩ := Filter.mem_minima.mp hb
    exact same s t hs ht enabled enabled'

/-- Two fragments and two authored filters, and the same backwards. -/
theorem assemble_perm_reverse :
    let fragment (should : List Clause) (count : Int64) : Filter :=
      .synthesized ⟨"", "", { (∅ : BoolClause) with should, minimum := some (.count count) }, false⟩
    let filters := [fragment [.present "a", .present "b"] 2, .authored { field := "x", operator := .present },
      fragment [.present "c"] 1, .authored { field := "y", operator := .present, inverted := true }]
    let range : TimeRange := ⟨"now-15m", "now"⟩
    ∃ a b, (assemble { minimumMerge := .max } filters "slow" range).1 = .ok ⟨.bool a⟩ ∧
      (assemble { minimumMerge := .max } filters.reverse "slow" range).1 = .ok ⟨.bool b⟩ ∧
      a.Rearranged [range.clause "startTime", .queryString "slow"] b ∧ a.minimum = b.minimum := by
  intro fragment filters range
  obtain ⟨-, assembled⟩ :=
    @assemble_perm { minimumMerge := .max } filters filters.reverse "slow" range filters.reverse_perm.symm
  obtain ⟨a, b, same, reversed, rearranged, counts, -⟩ := assembled _ rfl
  refine ⟨a, b, congrArg Except.ok same, reversed, rearranged, counts rfl fun s hs _ expression => ?_⟩
  simp only [filters, fragment, List.mem_cons, Filter.synthesized.injEq, reduceCtorEq, List.not_mem_nil, or_false,
    false_or] at hs
  rcases hs with rfl | rfl <;> simp

end SearchQuery
end SpanSearch
