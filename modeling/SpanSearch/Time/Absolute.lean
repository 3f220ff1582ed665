import SpanSearch.Binary64.Text
import SpanSearch.Text.Blank
import SpanSearch.Time.Instant

/-! The absolute forms of a time: the strict form of RFC 3339, which tells its offset, and four lenient
forms in UTC. Each form has to fit the whole text. -/

namespace SpanSearch

/-- A point of the calendar and the clock as it is written; second 60 is a leap second. -/
structure ClockTime where
  year : Int
  month : Nat
  day : Nat
  hour : Nat := 0
  minute : Nat := 0
  second : Nat := 0
  nanos : Nat := 0
deriving DecidableEq

namespace ClockTime

/-- The instant of a clock that is `offset` seconds ahead of UTC. -/
def instant? (c : ClockTime) (offset : Int) : Option Instant :=
  let date : Date := ⟨c.year, c.month, c.day⟩
  if date.isValid && c.hour < 24 && c.minute < 60 && c.second ≤ 60 then
    let leap := if c.second == 60 then 1 else 0
    Instant.ofParts?
      (86400 * date.dayNumber + 3600 * c.hour + 60 * c.minute + (c.second - leap : Nat) - offset)
      (leap * 10 ^ 9 + c.nanos)
  else none

end ClockTime

namespace Absolute

/-- One given character. -/
def mark (c : Char) : List Char → Option (List Char)
  | d :: rest => if d == c then some rest else none
  | [] => none

/-- A number of exactly `count` digits. -/
def fixedNumber (count : Nat) (text : List Char) : Option (Nat × List Char) :=
  let digits := text.take count
  if digits.length == count && digits.all isDigit then
    some (Decimal.digitsFrom 0 (digits.map digitValue), text.drop count)
  else none

/-- A number of at most `most` digits, blanks before it skipped. -/
def number (most : Nat) (text : List Char) : Option (Nat × List Char) :=
  let text := dropBlanks text
  let digits := (text.take most).takeWhile isDigit
  if digits.isEmpty then none
  else some (Decimal.digitsFrom 0 (digits.map digitValue), text.drop digits.length)

/-- A year: at most four digits, or a sign and any number of digits. -/
def year (text : List Char) : Option (Int × List Char) :=
  match dropBlanks text with
  | '-' :: rest => signed (-1) rest
  | '+' :: rest => signed 1 rest
  | unsigned => (number 4 unsigned).map fun (n, rest) => ((n : Int), rest)
where
  /-- The digits after a sign. -/
  signed (sign : Int) (text : List Char) : Option (Int × List Char) :=
    match spanDigits text with
    | ([], _) => none
    | (digits, rest) => some (sign * Decimal.digitsFrom 0 digits, rest)

/-- A fraction of a second in nanoseconds, from the digits after the point. Digits after the ninth
are dropped. -/
def fractionNanos (digits : List Nat) : Nat :=
  let kept := digits.take 9
  Decimal.digitsFrom 0 kept * 10 ^ (9 - kept.length)

/-- A point with at least one digit after it, or nothing. -/
def fraction : List Char → Option (Nat × List Char)
  | '.' :: rest =>
    match spanDigits rest with
    | ([], _) => none
    | (digits, after) => some (fractionNanos digits, after)
  | text => some (0, text)

/-- The abbreviated names of the months. -/
def monthNames : List String :=
  ["jan", "feb", "mar", "apr", "may", "jun", "jul", "aug", "sep", "oct", "nov", "dec"]

/-- The name of a month in three letters of any case. -/
def monthName (text : List Char) : Option (Nat × List Char) := do
  let index ← monthNames.idxOf? (String.ofList ((text.take 3).map Char.toLower))
  some (index + 1, text.drop 3)

/-- An offset from UTC in seconds. -/
def offset : List Char → Option (Int × List Char)
  | 'Z' :: rest => some (0, rest)
  | 'z' :: rest => some (0, rest)
  | '+' :: rest => hoursMinutes 1 rest
  | '-' :: rest => hoursMinutes (-1) rest
  | '−' :: rest => hoursMinutes (-1) rest
  | _ => none
where
  /-- The hours and minutes after a sign. -/
  hoursMinutes (sign : Int) (text : List Char) : Option (Int × List Char) := do
    let (hours, text) ← fixedNumber 2 text
    let text ← mark ':' text
    let (minutes, text) ← fixedNumber 2 text
    if hours < 24 && minutes < 60 then some (sign * (3600 * hours + 60 * minutes), text) else none

/-- The strict form, as in `2020-10-15T07:30:00.5+02:00`. -/
def strict? (text : List Char) : Option Instant := do
  let (year, text) ← fixedNumber 4 text
  let text ← mark '-' text
  let (month, text) ← fixedNumber 2 text
  let text ← mark '-' text
  let (day, text) ← fixedNumber 2 text
  let text ← (mark 'T' text <|> mark 't' text <|> mark ' ' text)
  let (hour, text) ← fixedNumber 2 text
  let text ← mark ':' text
  let (minute, text) ← fixedNumber 2 text
  let text ← mark ':' text
  let (second, text) ← fixedNumber 2 text
  let (nanos, text) ← fraction text
  let (offset, text) ← offset text
  if text.isEmpty then ({ year, month, day, hour, minute, second, nanos } : ClockTime).instant? offset
  else none

/-- Year, month and day with dashes between them. -/
def yearMonthDay (text : List Char) : Option (ClockTime × List Char) := do
  let (year, text) ← year text
  let text ← mark '-' text
  let (month, text) ← number 2 text
  let text ← mark '-' text
  let (day, text) ← number 2 text
  some ({ year, month, day }, text)

/-- Month name, day and year, as in `Oct 15, 2020`. -/
def monthDayYear (text : List Char) : Option (ClockTime × List Char) := do
  let (month, text) ← monthName text
  let (day, text) ← number 2 (dropBlanks text)
  let text ← mark ',' text
  let (year, text) ← year (dropBlanks text)
  some ({ year, month, day }, text)

/-- The time of day up to the end of the text, and the instant in UTC. -/
def timeOfDay? (date : ClockTime) (text : List Char) : Option Instant := do
  let (hour, text) ← number 2 text
  let text ← mark ':' text
  let (minute, text) ← number 2 text
  let text ← mark ':' text
  let (second, text) ← number 2 text
  let (nanos, text) ← fraction text
  if text.isEmpty then ({ date with hour, minute, second, nanos } : ClockTime).instant? 0 else none

/-- A date and a time of day with the letter T between them. -/
def dateLetterTime? (text : List Char) : Option Instant := do
  let (date, text) ← yearMonthDay text
  timeOfDay? date (← mark 'T' text)

/-- A date and a time of day with any blanks between them. -/
def dateBlankTime? (text : List Char) : Option Instant := do
  let (date, text) ← yearMonthDay text
  timeOfDay? date (dropBlanks text)

/-- The form of the date picker, as in `Oct 15, 2020 @ 07:30:00.000`. -/
def pickerTime? (text : List Char) : Option Instant := do
  let (date, text) ← monthDayYear text
  let text ← mark '@' (dropBlanks text)
  timeOfDay? date (dropBlanks text)

/-- A date alone, which is its start. -/
def date? (text : List Char) : Option Instant := do
  let (date, text) ← yearMonthDay text
  if text.isEmpty then date.instant? 0 else none

/-- The instant of the first form that fits the text. -/
def read? (text : List Char) : Option Instant :=
  [strict?, dateLetterTime?, dateBlankTime?, pickerTime?, date?].findSome? (· text)

end Absolute
end SpanSearch
