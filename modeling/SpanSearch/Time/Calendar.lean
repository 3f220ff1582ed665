/-! The Gregorian calendar, also before its introduction and before year 1: dates, and days counted from
1970-01-01. -/

namespace SpanSearch

/-- A date. Months and days count from one. -/
structure Date where
  year : Int
  month : Nat
  day : Nat
deriving DecidableEq

namespace Date

/-- Every fourth year is a leap year, except for the centuries that four does not divide. -/
def isLeapYear (year : Int) : Bool :=
  year % 4 == 0 && (year % 100 != 0 || year % 400 == 0)

/-- The leap years from year 1 up to the end of a year. -/
def leapYears (year : Int) : Int :=
  year / 4 - year / 100 + year / 400

/-- The day number of January 1st. -/
def daysBeforeYear (year : Int) : Int :=
  365 * (year - 1970) + (leapYears (year - 1) - leapYears 1969)

/-- The lengths of the months of a year. -/
def monthLengths (year : Int) : List Nat :=
  [31, if isLeapYear year then 29 else 28, 31, 30, 31, 30, 31, 31, 30, 31, 30, 31]

/-- The length of a month; there are no days in a month that does not exist. -/
def daysInMonth (year : Int) (month : Nat) : Nat :=
  (((0 :: monthLengths year)[month]?).getD 0)

/-- The first and the last year that instants reach. -/
def firstYear : Int := -262143

/-- The last year that instants reach. -/
def lastYear : Int := 262142

/-- Whether the date exists, in a year that instants reach. -/
def isValid (d : Date) : Bool :=
  firstYear ≤ d.year && d.year ≤ lastYear && 1 ≤ d.day && d.day ≤ daysInMonth d.year d.month

/-- The days from 1970-01-01 to a date. -/
def dayNumber (d : Date) : Int :=
  daysBeforeYear d.year + (((monthLengths d.year).take (d.month - 1)).foldl (· + ·) 0 : Nat) + d.day - 1

/-- The year that a day lies in. The mean length of a year tells it but for one year. -/
def yearOfDay (day : Int) : Int :=
  let year := 1970 + day * 400 / 146097
  if day < daysBeforeYear year then year - 1
  else if daysBeforeYear (year + 1) ≤ day then year + 1
  else year

/-- The whole months that a number of days covers, and the days that are left. -/
def splitMonths : List Nat → Nat → Nat × Nat
  | [], days => (0, days)
  | length :: rest, days =>
    if days < length then (0, days)
    else
      let (months, left) := splitMonths rest (days - length)
      (months + 1, left)

/-- The date of a day number. -/
def ofDayNumber (day : Int) : Date :=
  let year := yearOfDay day
  let (months, left) := splitMonths (monthLengths year) (day - daysBeforeYear year).toNat
  ⟨year, months + 1, left + 1⟩

/-- The days since the last Sunday, the day itself included. -/
def weekday (day : Int) : Int :=
  (day + 4) % 7

/-- The date some months later, on the last day of the month if the month has no such day. -/
def addMonths (d : Date) (months : Int) : Date :=
  let total := 12 * d.year + (d.month - 1) + months
  let year := total / 12
  let month := (total % 12).toNat + 1
  ⟨year, month, min d.day (daysInMonth year month)⟩

end Date
end SpanSearch
