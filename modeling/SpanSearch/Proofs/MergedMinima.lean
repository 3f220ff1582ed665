import Mathlib.Data.List.DropRight
import Mathlib.Data.List.ReduceOption
import SpanSearch.Proofs.AcceptedSpans

/-! The minimum of an assembled query. The minima of the enabled fragments are merged one after another. What comes
    of them is the last one or, where counts are compared, the last expression or the greatest count after it. -/

namespace SpanSearch

/-! ### Counts -/

namespace MinimumMatch
variable (given : List MinimumMatch)

/-- The number of a count. -/
def count? : MinimumMatch → Option Int64
  | count n => some n
  | expression _ => none

/-- The counts after the last expression; all counts where there is no expression. -/
def lastCounts : List Int64 :=
  (given.rtakeWhile (·.count?.isSome)).filterMap (·.count?)

theorem lastCounts_count (n : Int64) : lastCounts (given ++ [count n]) = lastCounts given ++ [n] := by
  rw [lastCounts, List.rtakeWhile_concat_pos _ _ _ rfl, List.filterMap_append]
  rfl

theorem lastCounts_expression (text : String) : lastCounts (given ++ [expression text]) = [] := by
  rw [lastCounts, List.rtakeWhile_concat_neg _ _ _ (by simp [count?])]
  rfl

/-- The minimum that prevails where counts are compared: the last expression, unless counts follow it, and else the
greatest of these. -/
def prevailing : Option MinimumMatch :=
  match given.getLast? with
  | none => none
  | some (expression text) => some (expression text)
  | some (count _) => (lastCounts given).max?.map count

theorem prevailing_expression (text : String) : prevailing (given ++ [expression text]) = some (expression text) := by
  rw [prevailing, List.getLast?_concat]

theorem prevailing_count (n : Int64) :
    prevailing (given ++ [count n]) = some (count ((lastCounts given).max?.elim n (max · n))) := by
  have greatest : ∀ counts : List Int64, (counts ++ [n]).max? = some (counts.max?.elim n (max · n)) := by
    intro counts
    cases counts with
    | nil => rfl
    | cons first rest => simp [List.max?]
  rw [prevailing, List.getLast?_concat, lastCounts_count, greatest, Option.map_some]

end MinimumMatch

/-! ### Merging -/

namespace MergePolicy
open MinimumMatch

/-- What comes of several minima, some of them absent: the last one, or the prevailing one of those that are not. -/
def combined (policy : MergePolicy) (minima : List (Option MinimumMatch)) : Option MinimumMatch :=
  match policy with
  | last => minima.getLast?.join
  | max => prevailing minima.reduceOption

theorem merge_prevailing (given : List MinimumMatch) (n : Int64) :
    merge max (prevailing given) (some (count n)) = prevailing (given ++ [count n]) := by
  rw [prevailing_count]
  -- After an expression the counts start anew, and after a count the greatest so far is what prevails.
  rcases given.eq_nil_or_concat' with rfl | ⟨before, last, rfl⟩
  · rfl
  · cases last with
    | expression text => rw [prevailing_expression, lastCounts_expression]; rfl
    | count m =>
      obtain ⟨greatest, found⟩ : ∃ greatest, (lastCounts (before ++ [count m])).max? = some greatest := by
        rw [lastCounts_count, ← Option.isSome_iff_exists]
        simp
      rw [prevailing, List.getLast?_concat, found]
      rfl

theorem combined_concat (policy : MergePolicy) (minima : List (Option MinimumMatch)) (minimum : Option MinimumMatch) :
    policy.combined (minima ++ [minimum]) = policy.merge (policy.combined minima) minimum := by
  cases policy with
  | last => simp [combined, merge]
  | max =>
    rw [combined, List.reduceOption_append, combined]
    match minimum with
    | none => simp [merge]
    | some (.expression text) => exact (prevailing_expression _ text).trans (by simp [merge])
    | some (.count n) => exact (merge_prevailing _ n).symm

/-- Merging one minimum after another gives what comes of all of them. -/
theorem foldl_merge (policy : MergePolicy) (minima : List (Option MinimumMatch)) :
    minima.foldl policy.merge none = policy.combined minima := by
  -- What comes of the minima depends on where they end, so another one is added at the end.
  induction minima using List.reverseRecOn with
  | nil => cases policy <;> rfl
  | append_singleton before minimum ih => rw [List.foldl_concat, ih, combined_concat]

end MergePolicy

/-! ### The assembled minimum -/

namespace Filter
variable {filters : List Filter}

/-- The minima of the enabled synthesized filters, in their order. -/
def minima (filters : List Filter) : List (Option MinimumMatch) :=
  (filters.filterMap (·.fragment?)).map (·.minimum)

theorem mem_minima {minimum : Option MinimumMatch} : minimum ∈ minima filters ↔
    ∃ s, synthesized s ∈ filters ∧ s.disabled = false ∧ s.fragment.minimum = minimum := by
  rw [minima, List.mem_map]
  constructor
  · rintro ⟨body, hb, rfl⟩
    obtain ⟨s, hs, enabled, rfl⟩ := mem_fragments.mp hb
    exact ⟨s, hs, enabled, rfl⟩
  · rintro ⟨s, hs, enabled, rfl⟩
    exact ⟨s.fragment, mem_fragments.mpr ⟨s, hs, enabled, rfl⟩, rfl⟩

theorem fragment?_eq_none {f : Filter} (h : f.disabled = true ∨ ∃ a, f = authored a) : f.fragment? = none := by
  rcases h with disabled | ⟨a, rfl⟩
  · cases f with
    | authored a => rfl
    | synthesized s => exact if_pos disabled
  · rfl

/-- A filter that is no enabled synthesized one brings no minimum. -/
theorem minima_remove {before after : List Filter} {f : Filter} (h : f.fragment? = none) :
    minima (before ++ f :: after) = minima (before ++ after) := by
  simp [minima, List.filterMap_append, List.filterMap_cons_none h]

end Filter

namespace SearchQuery
variable {config : Config} {filters : List Filter} {text : String} {range : TimeRange}

theorem minimum_assembledBody :
    (assembledBody config filters text range).minimum = config.minimumMerge.combined (Filter.minima filters) := by
  rw [← MergePolicy.foldl_merge, Filter.minima, List.foldl_map]
  rfl

/-- The minimum of an assembled query is what comes of the minima of the enabled synthesized filters; there is a query
if the authored ones compile. An authored or disabled filter has no part in the minimum: without it the query is
assembled with the same one. -/
theorem minimum_assemble :
    ((∀ f ∈ filters, f.Compiles) → ∃ q, (assemble config filters text range).1 = .ok q) ∧
    ∀ q, (assemble config filters text range).1 = .ok q →
      ∃ body, q = ⟨.bool body⟩ ∧ body.minimum = config.minimumMerge.combined (Filter.minima filters) ∧
        ∀ before f after, filters = before ++ f :: after → (f.disabled = true ∨ ∃ a, f = .authored a) →
          ∃ body', (assemble config (before ++ after) text range).1 = .ok ⟨.bool body'⟩ ∧
            body'.minimum = body.minimum := by
  refine ⟨fun compiles => ⟨_, assemble_eq_ok_iff.mpr ⟨compiles, rfl⟩⟩, fun q assembled => ?_⟩
  obtain ⟨compiles, rfl⟩ := assemble_eq_ok_iff.mp assembled
  refine ⟨_, rfl, minimum_assembledBody, ?_⟩
  rintro before f after rfl idle
  have others : ∀ g ∈ before ++ after, g.Compiles := fun g hg =>
    compiles g (List.mem_append.mpr ((List.mem_append.mp hg).imp_right (List.mem_cons_of_mem f)))
  refine ⟨_, assemble_eq_ok_iff.mpr ⟨others, rfl⟩, ?_⟩
  rw [minimum_assembledBody, minimum_assembledBody, Filter.minima_remove (Filter.fragment?_eq_none idle)]

/-- A count, an expression, no minimum and two more counts, of which the second one is the smaller; a disabled filter
and an authored one between them. -/
theorem minimum_assemble_mixed :
    let fragment (minimum : Option MinimumMatch) (disabled : Bool) : Filter :=
      .synthesized ⟨"", "", { (∅ : BoolClause) with minimum }, disabled⟩
    let filters := [fragment (some (.count 7)) false, fragment (some (.expression "50%")) false,
      fragment (some (.count 9)) true, fragment none false, fragment (some (.count 3)) false,
      .authored { field := "status.code", operator := .present }, fragment (some (.count 2)) false]
    let assembled (filters : List Filter) (minimum : Option MinimumMatch) : Prop :=
      ∃ body, (assemble { minimumMerge := .max } filters "" ⟨"now-15m", "now"⟩).1 = .ok ⟨.bool body⟩ ∧
        body.minimum = minimum
    assembled filters (some (.count 3)) ∧ assembled (filters.eraseIdx 2) (some (.count 3)) := by
  intro fragment filters assembled
  obtain ⟨-, minimum⟩ := @minimum_assemble { minimumMerge := .max } filters "" ⟨"now-15m", "now"⟩
  obtain ⟨body, same, minimum, removed⟩ := minimum _ rfl
  have three : body.minimum = some (.count 3) := minimum
  obtain ⟨body', same', minimum'⟩ := removed (filters.take 2) _ (filters.drop 3) rfl (.inl rfl)
  exact ⟨⟨body, congrArg Except.ok same, three⟩, body', same', minimum'.trans three⟩

end SearchQuery
end SpanSearch
