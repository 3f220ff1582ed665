import SpanSearch.Filter.Stored
import SpanSearch.Text.Shown
import SpanSearch.Time.Math

/-! Notices: what is worth telling about a search besides its result. -/

namespace SpanSearch

/-- A notice. -/
inductive Notice where
  /-- A time range did not resolve. -/
  | unresolved (start finish : String) (error : TimeError)
  /-- The stored list of filters was not a list. -/
  | filtersIgnored
  /-- The stored filter at a position did not read. -/
  | filterIgnored (position : Nat) (error : FilterError)
  /-- The minimum of a fragment took the place of another one. -/
  | minimumReplaced (label : String) (before after : Option MinimumMatch)
deriving DecidableEq

/-- How much a notice matters. -/
inductive Severity where
  | warning
  | debug
deriving DecidableEq

namespace MinimumMatch

/-- A minimum as notices show it. -/
def shown : Option MinimumMatch → String
  | none => "None"
  | some (count n) => s!"Some(Count({n}))"
  | some (expression text) => s!"Some(Expr({Text.shown text}))"

end MinimumMatch

namespace Notice

/-- Only replaced minima matter less than a warning. -/
def severity : Notice → Severity
  | minimumReplaced .. => .debug
  | _ => .warning

/-- The text of a notice. -/
def message : Notice → String
  | unresolved start finish error =>
    s!"cannot resolve time range '{start}' - '{finish}': {error.message}"
  | filtersIgnored => "ignoring stored filters: not a list"
  | filterIgnored position error => s!"ignoring stored filter #{position}: {error.message}"
  | minimumReplaced label before after =>
    s!"'{label}' replaces minimum_should_match {MinimumMatch.shown before} with {MinimumMatch.shown after}"

end Notice
end SpanSearch
