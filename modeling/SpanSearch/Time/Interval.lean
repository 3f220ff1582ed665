/-! The intervals of date histograms, and the smallest one that suits a span of time. -/

namespace SpanSearch

/-- The length of a bucket of a histogram. -/
inductive Interval where
  | millisecond
  | second
  | minute
  | hour
  | day
  | sevenDays
  | thirtyDays
  | year
  /-- Used where the span is unknown. -/
  | calendarMinute
deriving DecidableEq, Inhabited

namespace Interval

/-- All intervals, in their order. -/
def all : List Interval :=
  [millisecond, second, minute, hour, day, sevenDays, thirtyDays, year, calendarMinute]

/-- The written form of an interval. -/
def token : Interval → String
  | millisecond => "1ms"
  | second => "1s"
  | minute => "1m"
  | hour => "1h"
  | day => "1d"
  | sevenDays => "7d"
  | thirtyDays => "30d"
  | year => "365d"
  | calendarMinute => "minute"

/-- What is said about a text that is no interval. -/
def expectation : String :=
  "expected '1ms', '1s', '1m', '1h', '1d', '7d', '30d', '365d' or 'minute'"

/-- The interval of a written form. -/
def ofToken? (token : String) : Option Interval :=
  all.find? (·.token == token)

/-- The length of an interval in milliseconds. -/
def millis : Interval → Int
  | millisecond => 1
  | second => 1000
  | minute => 60 * 1000
  | hour => 3600 * 1000
  | day => 86400 * 1000
  | sevenDays => 7 * 86400 * 1000
  | thirtyDays => 30 * 86400 * 1000
  | year => 365 * 86400 * 1000
  | calendarMinute => 60 * 1000

/-- The place of an interval among all of them. -/
def place (i : Interval) : Nat :=
  all.idxOf i

/-- The longest span in seconds that each interval is used for. -/
def ladder : List (Int × Interval) :=
  [(1, millisecond), (60, second), (3600, minute), (86400, hour), (7 * 86400, day),
    (31 * 86400, sevenDays), (366 * 86400, thirtyDays)]

/-- The interval for a span: the first one on the ladder that reaches as far, and a year beyond it. A
span may be negative. -/
def forSeconds (seconds : Int) : Interval :=
  match ladder.find? (seconds ≤ ·.1) with
  | some (_, i) => i
  | none => year

@[simp] theorem ofToken?_token (i : Interval) : ofToken? i.token = some i := by
  cases i <;> rfl

/-- Intervals from the first to the last. -/
def sort (intervals : List Interval) : List Interval :=
  intervals.mergeSort fun a b => a.place ≤ b.place

end Interval
end SpanSearch
