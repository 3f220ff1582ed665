import SpanSearch.Time.Instant

/-! The units of date math: stepping by a number of units, and rounding down to the start of one. -/

namespace SpanSearch

/-- A unit of time. -/
inductive TimeUnit where
  | year
  | month
  | week
  | day
  | hour
  | minute
  | second
  | millisecond
deriving DecidableEq

namespace TimeUnit

/-- The length of a unit: a number of months, or a number of nanoseconds. -/
inductive Length where
  | months (n : Int)
  | nanos (n : Int)

/-- How long each unit is. -/
def length : TimeUnit → Length
  | year => .months 12
  | month => .months 1
  | week => .nanos (7 * 86400 * 10 ^ 9)
  | day => .nanos (86400 * 10 ^ 9)
  | hour => .nanos (3600 * 10 ^ 9)
  | minute => .nanos (60 * 10 ^ 9)
  | second => .nanos (10 ^ 9)
  | millisecond => .nanos (10 ^ 6)

/-- The milliseconds of the longest step by a number of nanoseconds, forward and back. -/
def longestStep : Int :=
  2 ^ 63 - 1

/-- The instant a number of units later. A signed 64-bit word has to hold a number of months, and an unsigned
32-bit word its magnitude; a step by a number of nanoseconds has to be no longer than the longest one. -/
def add? (unit : TimeUnit) (t : Instant) (amount : Int) : Option Instant :=
  match unit.length with
  | .months n =>
    if fitsWord 64 (n * amount) && (n * amount).natAbs < 2 ^ 32 then t.addMonths? (n * amount) else none
  | .nanos n =>
    if -(longestStep * 10 ^ 6) ≤ n * amount && n * amount ≤ longestStep * 10 ^ 6 then t.add? (n * amount) else none

/-- The start of the unit that an instant lies in. Weeks start on Sunday. -/
def roundDown? (unit : TimeUnit) (t : Instant) : Option Instant :=
  match unit with
  | year => Instant.ofDate? ⟨t.date.year, 1, 1⟩
  | month => Instant.ofDate? ⟨t.date.year, t.date.month, 1⟩
  | week => do (← t.truncate? (86400 * 10 ^ 9)).add? (-(86400 * 10 ^ 9 * Date.weekday t.day))
  | day => t.truncate? (86400 * 10 ^ 9)
  | hour => t.truncate? (3600 * 10 ^ 9)
  | minute => t.truncate? (60 * 10 ^ 9)
  | second => t.truncate? (10 ^ 9)
  | millisecond => t.truncate? (10 ^ 6)

end TimeUnit
end SpanSearch
