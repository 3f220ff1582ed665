import SpanSearch.Proofs.CommandFilters
import SpanSearch.Proofs.FiniteProducts

/-! Percentile filters that are stored and read back. A bound is lost just if its nanoseconds are beyond the finite
    numbers, and then the range of its clause has no bound at all. Every other bound is a number on the side of the
    condition. -/

namespace SpanSearch

/-! ### Bounds -/

namespace PercentileCondition

/-- The bound of a range on the side of the condition. -/
def side (condition : PercentileCondition) (b : RangeBounds) : Option Value :=
  match condition with
  | below => b.lte
  | atOrAbove => b.gte

/-- The bounds for a percentile in milliseconds as they are read back. -/
def keptBounds (condition : PercentileCondition) (millis : Double) : RangeBounds :=
  if Units.FiniteNanos millis then (DurationFilter.ofCondition condition (.finite millis)).bounds else {}

end PercentileCondition

namespace DurationFilter
variable (condition : PercentileCondition) (millis : Double)

theorem boundValue_ne_null_iff {b : Binary64} : (boundValue b).json ≠ .null ↔ b.finite?.isSome := by
  rw [ne_eq, ← Value.isNull_iff, isNull_boundValue, Bool.not_eq_true', Bool.not_eq_false]

theorem canonical_bounds_ofCondition :
    (ofCondition condition (.finite millis)).bounds.Canonical ↔ Units.FiniteNanos millis := by
  rw [← Units.isSome_finite?_millisToNanos, ← boundValue_ne_null_iff]
  cases condition <;> simp [RangeBounds.Canonical, RangeBounds.sides, ofCondition, bounds]

theorem bounds_finiteOnly_ofCondition :
    (ofCondition condition (.finite millis)).finiteOnly.bounds = condition.keptBounds millis := by
  have finite := Units.isSome_finite?_millisToNanos millis
  rw [PercentileCondition.keptBounds]
  split
  · next fits =>
    have kept := finite.mpr fits
    cases condition <;> simp only [ofCondition, finiteOnly, Option.filter_some, Option.filter_none, kept, if_true]
  · next beyond =>
    have lost := Bool.eq_false_iff.mpr (mt finite.mp beyond)
    cases condition <;>
      simp only [ofCondition, finiteOnly, Option.filter_some, Option.filter_none, lost, Bool.false_eq_true, if_false]
    · rfl
    · rfl

/-- The whole number of a double stands for any value here, so that nothing evaluates it. -/
theorem value_of_whole {whole : Double → Option Whole} {x : Double} {n : Whole} (h : whole x = some n) :
    (match Binary64.finite x with
      | .finite x => match whole x with
        | some n => Value.ofNumber (.whole n)
        | none => .ofNumber (.double x)
      | _ => .null) = .ofNumber (.whole n) := by
  simp only [h]

/-- A whole number of nanoseconds is written as such as long as doubles hold all its neighbours. -/
theorem boundValue_of_whole {x : Double} {n : Whole}
    (whole : (x.whole?.bind fun i => if i.natAbs ≤ 2 ^ 53 - 1 then Whole.ofInt? i else none) = some n) :
    boundValue (.finite x) = .ofNumber (.whole n) := by
  rw [boundValue.eq_def]
  exact @value_of_whole (fun x => x.whole?.bind fun i => if i.natAbs ≤ 2 ^ 53 - 1 then Whole.ofInt? i else none)
    x n whole

theorem lossless_bounds_ofCondition (b : Binary64) :
    (ofCondition condition b).bounds.json.Lossless ↔ (boundValue (Units.millisToNanos b)).json.Lossless := by
  rw [RangeBounds.lossless_json]
  cases condition <;> simp [RangeBounds.sides, ofCondition, bounds]

end DurationFilter

/-- The bounds have a number on the side of the condition just if the nanoseconds are finite. -/
theorem PercentileCondition.side_keptBounds_iff (condition : PercentileCondition) (millis : Double) :
    (∃ n, condition.side (condition.keptBounds millis) = some (.ofNumber n)) ↔ Units.FiniteNanos millis := by
  rw [keptBounds]
  split
  · next fits =>
    refine iff_of_true ?_ fits
    rcases DurationFilter.boundValue_cases (Units.millisToNanos (.finite millis)) with ⟨-, n, same⟩ | ⟨lost, -⟩
    · exact ⟨n, by cases condition <;> exact congrArg some same⟩
    · rw [(Units.isSome_finite?_millisToNanos millis).mpr fits] at lost
      cases lost
  · next beyond =>
    refine iff_of_false ?_ beyond
    rintro ⟨n, same⟩
    cases condition <;> cases same

/-! ### Filters -/

namespace Filter
variable (fields : Fields) (condition : PercentileCondition) (percentiles : List (String × Double))

theorem canonical_ofSelections (inputs : List PercentileInput) (label : String) :
    (synthesized (.ofSelections fields inputs label)).Canonical ↔
      ∀ input ∈ inputs, input.duration.bounds.Canonical := by
  have clause (input : PercentileInput) : (input.clause fields).Canonical ↔ input.duration.bounds.Canonical := by
    obtain ⟨body, same, clauses⟩ := input.clauses_eq fields
    rw [same, Clause.canonical_bool, clauses]
    simp [Clause.Canonical, TermValue.Canonical]
  have fragment : (synthesized (.ofSelections fields inputs label)).Canonical ↔
      (Clause.bool (SynthesizedFilter.ofSelections fields inputs label).fragment).Canonical := by
    rw [Clause.Canonical, Canonical]
  rw [fragment, Clause.canonical_bool, SynthesizedFilter.clauses_ofSelections, List.forall_mem_map]
  exact forall₂_congr fun input _ => clause input

theorem canonical_ofPercentiles :
    (synthesized (.ofPercentiles fields condition
      (percentiles.map fun (group, millis) => (group, .finite millis)))).Canonical ↔
      ∀ p ∈ percentiles, Units.FiniteNanos p.2 := by
  rw [SynthesizedFilter.ofPercentiles, canonical_ofSelections, List.forall_mem_map, List.forall_mem_map]
  exact forall₂_congr fun p _ => DurationFilter.canonical_bounds_ofCondition condition p.2

theorem read_json_ofPercentiles_iff :
    let f : Filter := .synthesized (.ofPercentiles fields condition
      (percentiles.map fun (group, millis) => (group, .finite millis)))
    read f.json = .ok f ↔ ∀ p ∈ percentiles, Units.FiniteNanos p.2 := by
  intro f
  rw [← canonical_ofPercentiles fields condition percentiles]
  exact ⟨canonical_of_read f.distinct_json, read_json⟩

/-- The numbers of a percentile filter are those that its nanoseconds are written as. -/
theorem lossless_ofPercentiles (given : List (String × Binary64)) :
    (synthesized (.ofPercentiles fields condition given)).json.Lossless ↔
      ∀ p ∈ given, (DurationFilter.boundValue (Units.millisToNanos p.2)).json.Lossless := by
  rw [SynthesizedFilter.ofPercentiles, lossless_ofSelections, List.forall_mem_map]
  exact forall₂_congr fun p _ => DurationFilter.lossless_bounds_ofCondition condition p.2

theorem should_ofFinitePercentiles :
    (SynthesizedFilter.ofFinitePercentiles fields condition
      (percentiles.map fun (group, millis) => (group, .finite millis))).fragment.should =
      percentiles.map fun (group, millis) => .bool ((∅ : BoolClause)
        |>.addMust (.term fields.traceGroup (.explicit (.ofString group)))
        |>.addMust (.range fields.duration (condition.keptBounds millis))) := by
  simp only [SynthesizedFilter.ofFinitePercentiles, SynthesizedFilter.ofSelections, List.map_map]
  refine List.map_congr_left fun p _ => ?_
  rw [← DurationFilter.bounds_finiteOnly_ofCondition]
  rfl

/-- A percentile filter is read back as it is stored just if the nanoseconds of all its percentiles are finite. It is
    always read back with all its clauses, each with a number on the side of the condition just if the nanoseconds are
    finite, and without any bound otherwise. A store gives the same back as long as numbers survive as text. -/
theorem read_json_ofPercentiles (fields : Fields) (condition : PercentileCondition)
    (percentiles : List (String × Double)) :
    let given := percentiles.map fun (group, millis) => (group, Binary64.finite millis)
    let f : Filter := .synthesized (.ofPercentiles fields condition given)
    let kept := SynthesizedFilter.ofFinitePercentiles fields condition given
    (read f.json = .ok f ↔ ∀ p ∈ percentiles, Units.FiniteNanos p.2) ∧
      read f.json = .ok (.synthesized kept) ∧
      kept.fragment.should = percentiles.map (fun (group, millis) => .bool ((∅ : BoolClause)
        |>.addMust (.term fields.traceGroup (.explicit (.ofString group)))
        |>.addMust (.range fields.duration (condition.keptBounds millis)))) ∧
      (∀ millis, (∃ n, condition.side (condition.keptBounds millis) = some (.ofNumber n)) ↔
        Units.FiniteNanos millis) ∧
      ∀ store : Store, f.json.Lossless →
        (Session.load (store.set Session.filtersKey (Session.filtersText [f]))).1.filters = [.synthesized kept] := by
  intro given f kept
  refine ⟨read_json_ofPercentiles_iff fields condition percentiles, ?_,
    should_ofFinitePercentiles fields condition percentiles, condition.side_keptBounds_iff, fun store lossless => ?_⟩
  · exact read_json_eq_ofFinitePercentiles
  · obtain ⟨listable, reread, -⟩ := listable_ofPercentiles lossless
    rw [Session.load_set_filters store (List.forall_mem_singleton.mpr listable), List.map_singleton, reread]

/-- Of a percentile of `1e303` milliseconds nothing is left but the trace group, while one of `2.5` keeps its bound. -/
theorem load_ofPercentiles_beyond : ∃ beyond short : Double,
    Command.groupPercentile? "checkout=1e303" = some ("checkout", beyond) ∧
    Command.groupPercentile? "cart=2.5" = some ("cart", short) ∧
    let f : Filter := .synthesized (.ofPercentiles {} .atOrAbove
      [("checkout", .finite beyond), ("cart", .finite short)])
    f.json.Lossless ∧ read f.json ≠ .ok f ∧
      ∃ kept : SynthesizedFilter,
        (Session.load ((default : Store).set Session.filtersKey (Session.filtersText [f]))).1.filters =
          [.synthesized kept] ∧
        kept.fragment.should = [
          .bool ((∅ : BoolClause)
            |>.addMust (.term "name" (.explicit (.ofString "checkout")))
            |>.addMust (.range "durationInNanos" {})),
          .bool ((∅ : BoolClause)
            |>.addMust (.term "name" (.explicit (.ofString "cart")))
            |>.addMust (.range "durationInNanos" { gte := some (.ofNumber (.whole { value := 2500000 })) }))] := by
  -- What matters of the two doubles is computed once, so that nothing evaluates them later.
  obtain ⟨beyond, short, slow, quick, null, bound, lost, fits⟩ : ∃ beyond short : Double,
      Command.groupPercentile? "checkout=1e303" = some ("checkout", beyond) ∧
      Command.groupPercentile? "cart=2.5" = some ("cart", short) ∧
      DurationFilter.boundValue (Units.millisToNanos (.finite beyond)) = .null ∧
      DurationFilter.boundValue (Units.millisToNanos (.finite short)) = .ofNumber (.whole { value := 2500000 }) ∧
      ¬Units.FiniteNanos beyond ∧ Units.FiniteNanos short := by
    refine ⟨⟨false, 0x7ED754E31CD072DA, by decide⟩, ⟨false, 0x4004000000000000, by decide⟩, by decide +kernel,
      by decide +kernel, ?_, ?_, by decide +kernel, by decide +kernel⟩
    · have infinite : Units.millisToNanos (.finite ⟨false, 0x7ED754E31CD072DA, by decide⟩) = .infinite false := by
        decide +kernel
      rw [infinite]
      rfl
    · have finite : Units.millisToNanos (.finite ⟨false, 0x4004000000000000, by decide⟩) =
          .finite ⟨false, 0x414312D000000000, by decide⟩ := by
        decide +kernel
      rw [finite]
      exact DurationFilter.boundValue_of_whole (by decide +kernel)
  have reading := read_json_ofPercentiles {} .atOrAbove [("checkout", beyond), ("cart", short)]
  simp only [List.map_cons, List.map_nil] at reading
  obtain ⟨same, -, should, -, load⟩ := reading
  have lossless : (Filter.synthesized (.ofPercentiles {} .atOrAbove
      [("checkout", .finite beyond), ("cart", .finite short)])).json.Lossless := by
    rw [lossless_ofPercentiles, List.forall_mem_cons, List.forall_mem_singleton, null, bound]
    exact ⟨trivial, Number.readsBack_whole _⟩
  refine ⟨beyond, short, slow, quick, lossless,
    fun read => lost (same.mp read ("checkout", beyond) List.mem_cons_self), _, load default lossless, ?_⟩
  rw [should]
  simp only [PercentileCondition.keptBounds, if_neg lost, if_pos fits, DurationFilter.ofCondition,
    DurationFilter.bounds, Option.map_some, Option.map_none, bound]

/-- Not every percentile filter of finite percentiles is read back as it is stored. -/
theorem not_read_json_ofPercentiles : ¬∀ (fields : Fields) (condition : PercentileCondition)
    (percentiles : List (String × Double)),
    let f : Filter := .synthesized (.ofPercentiles fields condition
      (percentiles.map fun (group, millis) => (group, .finite millis)))
    read f.json = .ok f := by
  intro always
  obtain ⟨beyond, lost⟩ : ∃ millis, ¬Units.FiniteNanos millis :=
    ⟨⟨false, 0x7ED754E31CD072DA, by decide⟩, by decide +kernel⟩
  have same := read_json_ofPercentiles_iff {} .atOrAbove [("checkout", beyond)]
  exact lost (same.mp (always {} .atOrAbove _) ("checkout", beyond) List.mem_cons_self)

end Filter
end SpanSearch
