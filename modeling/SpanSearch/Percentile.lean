import SpanSearch.Config
import SpanSearch.Filter.Basic
import SpanSearch.Text.Blank
import SpanSearch.Units

/-! Filters made from a selection in a latency chart: for each trace group, the durations on one side
of a bound. -/

namespace SpanSearch

/-- Bounds on a duration in nanoseconds. -/
structure DurationFilter where
  gte : Option Binary64 := none
  lte : Option Binary64 := none
deriving DecidableEq, Inhabited

/-- The durations that are selected for one trace group. -/
structure PercentileInput where
  traceGroup : String
  duration : DurationFilter
deriving DecidableEq

/-- A side of the 95th percentile. -/
inductive PercentileCondition where
  | below
  | atOrAbove
deriving DecidableEq

namespace PercentileCondition

/-- The condition as shown to the user. -/
def text : PercentileCondition → String
  | below => "< 95"
  | atOrAbove => ">= 95"

/-- The condition of a text, blanks around it aside. -/
def ofText? (text : String) : Option PercentileCondition :=
  match String.ofList (trimBlanks text.toList) with
  | "lte" | "< 95" | "<95" => some below
  | "gte" | ">= 95" | ">=95" => some atOrAbove
  | _ => none

@[simp] theorem ofText?_text (c : PercentileCondition) : ofText? c.text = some c := by
  cases c <;> rfl

/-- What is said about a text that is no condition. -/
def expectation : String :=
  "expected 'lte' ('< 95') or 'gte' ('>= 95')"

end PercentileCondition

/-- Equality of numbers: the two zeros are equal, and NaN equals nothing. -/
def Binary64.sameNumber : Binary64 → Binary64 → Bool
  | finite x, finite y => x.sameNumber y
  | infinite a, infinite b => a == b
  | _, _ => false

namespace DurationFilter

/-- Equality of bounds, as numbers. -/
instance : BEq DurationFilter where
  beq a b := same a.gte b.gte && same a.lte b.lte
where
  /-- Two bounds are equal, or both absent. -/
  same : Option Binary64 → Option Binary64 → Bool
    | none, none => true
    | some x, some y => x.sameNumber y
    | _, _ => false

/-- The durations on one side of a percentile in milliseconds. -/
def ofCondition (condition : PercentileCondition) (millis : Binary64) : DurationFilter :=
  let bound := some (Units.millisToNanos millis)
  match condition with
  | .below => { lte := bound }
  | .atOrAbove => { gte := bound }

/-- A bound as a value: a whole number as such as long as doubles hold all its neighbours, a number
that is not finite as `null`. -/
def boundValue : Binary64 → Value
  | .finite x =>
    match x.whole?.bind fun n => if n.natAbs ≤ 2 ^ 53 - 1 then Whole.ofInt? n else none with
    | some n => .ofNumber (.whole n)
    | none => .ofNumber (.double x)
  | _ => .null

/-- The bounds of a range clause. -/
def bounds (d : DurationFilter) : RangeBounds where
  gte := d.gte.map boundValue
  lte := d.lte.map boundValue

/-- The names of the bounds, in their order. -/
def names : List String :=
  ["gte", "lte"]

/-- Each bound is a number, if it is there. -/
def read? (j : Json) : Option DurationFilter := do
  let members ← j.record? names
  let bound (name : String) := Json.optional (fun j => j.number?.map Number.toBinary64) name members
  some ⟨← bound "gte", ← bound "lte"⟩

/-- A number as a document; one that is not finite is `null`. -/
def numberJson : Binary64 → Json
  | .finite x => .number (.double x)
  | _ => .null

/-- The bounds as a document. -/
def json (d : DurationFilter) : Json :=
  .record [("gte", d.gte.map numberJson), ("lte", d.lte.map numberJson)]

/-- The parts of the bounds that count when they are read from text. -/
def shape : Shape :=
  .ofNames names

end DurationFilter

namespace PercentileInput

instance : BEq PercentileInput where
  beq a b := a.traceGroup == b.traceGroup && a.duration == b.duration

/-- The clause that a span belongs to the trace group and lasts as long as selected. -/
def clause (fields : Fields) (input : PercentileInput) : Clause :=
  .bool ((∅ : BoolClause)
    |>.addMust (.term fields.traceGroup (.explicit (.ofString input.traceGroup)))
    |>.addMust (.range fields.duration input.duration.bounds))

/-- The names of the members, in their order. -/
def names : List String :=
  ["traceGroupName", "durationFilter"]

/-- A record of a string and of bounds. -/
def read? (j : Json) : Option PercentileInput := do
  let members ← j.record? names
  some ⟨← Json.required Json.string? "traceGroupName" members,
    ← Json.required DurationFilter.read? "durationFilter" members⟩

/-- The selection as a document. -/
def json (input : PercentileInput) : Json :=
  .object [("traceGroupName", .string input.traceGroup), ("durationFilter", input.duration.json)]

/-- The parts of a selection that count when it is read from text. -/
def shape : Shape :=
  .record [("traceGroupName", .everything), ("durationFilter", DurationFilter.shape)]

end PercentileInput

namespace SynthesizedFilter

/-- What a percentile filter is about. -/
def percentileLabel : String := "Latency percentile within trace group"

/-- The filter for spans that match at least one of the selections. -/
def ofSelections (fields : Fields) (inputs : List PercentileInput) (condition : String) :
    SynthesizedFilter where
  label := percentileLabel
  condition := condition
  fragment := { (∅ : BoolClause) with
    should := inputs.map (·.clause fields)
    minimum := some (.count 1) }

/-- The filter for spans on one side of the percentile of their trace group, which is given in
milliseconds. -/
def ofPercentiles (fields : Fields) (condition : PercentileCondition)
    (percentiles : List (String × Binary64)) : SynthesizedFilter :=
  ofSelections fields
    (percentiles.map fun (group, millis) => ⟨group, .ofCondition condition millis⟩) condition.text

end SynthesizedFilter
end SpanSearch
