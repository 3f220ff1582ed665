import SpanSearch.Time.Calendar

/-! Instants with nanoseconds. A leap second prolongs the last second of a minute: its nanoseconds
count on from 10⁹. -/

namespace SpanSearch

/-- An instant: seconds since 1970-01-01 00:00:00 UTC, and nanoseconds, of which there may be 10⁹ and
more in the last second of a minute. The years are those of the calendar's range. -/
structure Instant where
  seconds : Int
  nanos : Nat
  least : 86400 * Date.daysBeforeYear Date.firstYear ≤ seconds
  below : seconds < 86400 * Date.daysBeforeYear (Date.lastYear + 1)
  nanos_lt : nanos < 2 * 10 ^ 9
  leap : 10 ^ 9 ≤ nanos → seconds % 60 = 59
deriving DecidableEq

/-- Whether a signed word of so many bits holds the number. -/
def fitsWord (bits : Nat) (n : Int) : Bool :=
  -2 ^ (bits - 1) ≤ n && n < 2 ^ (bits - 1)

namespace Instant

/-- The instant of these seconds and nanoseconds, if there is one. -/
def ofParts? (seconds : Int) (nanos : Nat) : Option Instant :=
  if h : 86400 * Date.daysBeforeYear Date.firstYear ≤ seconds ∧
      seconds < 86400 * Date.daysBeforeYear (Date.lastYear + 1) ∧ nanos < 2 * 10 ^ 9 ∧
      (10 ^ 9 ≤ nanos → seconds % 60 = 59) then
    some ⟨seconds, nanos, h.1, h.2.1, h.2.2.1, h.2.2.2⟩
  else none

/-- The start of 1970. -/
def epoch : Instant :=
  ⟨0, 0, by decide, by decide, by decide, by decide⟩

/-- Whether the instant lies in a leap second. -/
def inLeapSecond (t : Instant) : Bool :=
  10 ^ 9 ≤ t.nanos

/-- The day that the instant lies in. -/
def day (t : Instant) : Int :=
  t.seconds / 86400

/-- The date of the instant. -/
def date (t : Instant) : Date :=
  .ofDayNumber t.day

/-- The start of a date. -/
def ofDate? (d : Date) : Option Instant :=
  if d.isValid then ofParts? (86400 * d.dayNumber) 0 else none

/-- The instant that lies a number of nanoseconds after these seconds and nanoseconds. -/
def ofSum? (seconds : Int) (nanos : Nat) (added : Int) : Option Instant :=
  let total := seconds * 10 ^ 9 + nanos + added
  ofParts? (total / 10 ^ 9) (total % 10 ^ 9).toNat

/-- The instant a number of nanoseconds later. From within a leap second, a step that stays in it
only moves the nanoseconds, a longer step forward starts at the same place of the second before, and
one back by a second or more starts at the same place of the second after. -/
def add? (t : Instant) (nanos : Int) : Option Instant :=
  let whole := nanos.tdiv (10 ^ 9)
  let part := nanos.tmod (10 ^ 9)
  if !t.inLeapSecond then ofSum? t.seconds t.nanos nanos
  else if 0 < whole || (0 < part && 2 * 10 ^ 9 ≤ t.nanos + part) then
    ofSum? t.seconds (t.nanos - 10 ^ 9) nanos
  else if whole < 0 then ofSum? (t.seconds + 1) (t.nanos - 10 ^ 9) nanos
  else ofParts? t.seconds (t.nanos + part).toNat

/-- The instant some months later, at the same time of day. Signed 32-bit words have to hold the number of
months, its opposite and the month that is reached, counted from the start of year 0. -/
def addMonths? (t : Instant) (months : Int) : Option Instant :=
  if months.natAbs < 2 ^ 31 && fitsWord 32 (12 * t.date.year + (t.date.month - 1) + months) then
    let date := t.date.addMonths months
    if date.isValid then ofParts? (86400 * date.dayNumber + t.seconds % 86400) t.nanos else none
  else none

/-- The nanoseconds since 1970. -/
def stamp (t : Instant) : Int :=
  t.seconds * 10 ^ 9 + t.nanos

/-- The instant rounded down to a multiple of some nanoseconds since 1970, as far as 64 bits can
count these. -/
def truncate? (t : Instant) (unit : Int) : Option Instant :=
  if fitsWord 64 t.stamp then
    let excess := t.stamp % unit
    if excess == 0 then some t else t.add? (-excess)
  else none

end Instant
end SpanSearch
