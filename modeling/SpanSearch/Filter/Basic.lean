import SpanSearch.Clause.Basic
import SpanSearch.Filter.Operator

/-! Filters of a search. A user enters an authored filter; a synthesized one comes from a selection in
a chart and carries clauses of its own. -/

namespace SpanSearch

/-- Marks the open end of a range. -/
def unboundedMark : Char := '∞'

/-- A range as entered. -/
structure RangeValue where
  lower : String
  upper : String
deriving DecidableEq

/-- What a filter compares its field with. -/
inductive FilterValue where
  | range (r : RangeValue)
  | scalar (value : Value)

/-- A filter that a user entered. -/
structure AuthoredFilter where
  field : String
  operator : Operator
  value : Option FilterValue := none
  /-- Whether documents that match are left out. -/
  inverted : Bool := false
  disabled : Bool := false

/-- A filter that was made from a selection. -/
structure SynthesizedFilter where
  /-- What the filter is about. -/
  label : String
  condition : String
  fragment : BoolClause
  disabled : Bool := false

/-- A filter of a search. -/
inductive Filter where
  | authored (f : AuthoredFilter)
  | synthesized (f : SynthesizedFilter)

namespace RangeValue

/-- A side with the mark of an open end is no bound. -/
def bound (side : String) : Option Value :=
  if side.toList.contains unboundedMark then none else some (.ofString side)

/-- The bounds of a range, both included. -/
def bounds (r : RangeValue) : RangeBounds where
  gte := bound r.lower
  lte := bound r.upper

/-- Whether a value lies between the ends of a range, where an open end does not count. -/
def Within (r : RangeValue) (atMost : Value → Value → Prop) (v : Value) : Prop :=
  (unboundedMark ∉ r.lower.toList → atMost (.ofString r.lower) v) ∧
    (unboundedMark ∉ r.upper.toList → atMost v (.ofString r.upper))

theorem bound_eq_some_iff {side : String} {v : Value} :
    bound side = some v ↔ unboundedMark ∉ side.toList ∧ v = .ofString side := by
  by_cases marked : unboundedMark ∈ side.toList
  · simp [bound, marked]
  · simp [bound, marked, eq_comm]

/-- The bounds of a range admit what lies between its ends, whatever the strict comparison is. -/
theorem admits_bounds_iff (r : RangeValue) (atMost below : Value → Value → Prop) (v : Value) :
    r.bounds.Admits atMost below v ↔ r.Within atMost v := by
  constructor
  · intro admits
    exact ⟨fun closed => admits.gte _ (bound_eq_some_iff.mpr ⟨closed, rfl⟩),
      fun closed => admits.lte _ (bound_eq_some_iff.mpr ⟨closed, rfl⟩)⟩
  · rintro ⟨lower, upper⟩
    refine ⟨fun w hw => ?_, nofun, fun w hw => ?_, nofun⟩
    · obtain ⟨closed, rfl⟩ := bound_eq_some_iff.mp hw
      exact lower closed
    · obtain ⟨closed, rfl⟩ := bound_eq_some_iff.mp hw
      exact upper closed

example : (⟨"∞", "100"⟩ : RangeValue).bounds = { lte := some (.ofString "100") } := rfl

end RangeValue

instance : BEq FilterValue where
  beq
    | .range a, .range b => a == b
    | .scalar a, .scalar b => a == b
    | _, _ => false

instance : BEq AuthoredFilter where
  beq a b := a.field == b.field && a.operator == b.operator && a.value == b.value &&
    a.inverted == b.inverted && a.disabled == b.disabled

instance : BEq SynthesizedFilter where
  beq a b := a.label == b.label && a.condition == b.condition && a.fragment == b.fragment &&
    a.disabled == b.disabled

namespace Filter

instance : BEq Filter where
  beq
    | authored a, authored b => a == b
    | synthesized a, synthesized b => a == b
    | _, _ => false

/-- What the filter is about: the field of an authored filter, the label of a synthesized one. -/
def label : Filter → String
  | authored f => f.field
  | synthesized f => f.label

/-- Whether the filter is switched off. -/
def disabled : Filter → Bool
  | authored f => f.disabled
  | synthesized f => f.disabled

/-- The filter switched off or on. -/
def setDisabled (disabled : Bool) : Filter → Filter
  | authored f => .authored { f with disabled }
  | synthesized f => .synthesized { f with disabled }

end Filter
end SpanSearch
