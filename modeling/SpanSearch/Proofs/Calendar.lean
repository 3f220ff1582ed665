import SpanSearch.Time.Calendar

/-! The calendar as a numbering of the days. Every day has one date and every date one day, in the same order, and
    years that end are the 365 or 366 days between two January 1sts. -/

namespace SpanSearch
namespace Date

/-- The date is one of the calendar, whose years have no end. -/
structure Regular (d : Date) : Prop where
  one_le_day : 1 ≤ d.day
  day_le : d.day ≤ daysInMonth d.year d.month

/-- The months from the start of year 0 to the end of the date's month. -/
def monthIndex (d : Date) : Int :=
  12 * d.year + d.month

/-! ### Days within a year -/

/-- The days of the first months. -/
def daysBefore : List Nat → Nat → Nat
  | length :: rest, months + 1 => length + daysBefore rest months
  | _, _ => 0

theorem foldl_take (lengths : List Nat) (months days : Nat) :
    (lengths.take months).foldl (· + ·) days = days + daysBefore lengths months := by
  induction lengths generalizing months days with
  | nil => simp [daysBefore]
  | cons length rest ih =>
    cases months with
    | zero => rfl
    | succ months => rw [List.take_succ_cons, List.foldl_cons, ih, daysBefore, Nat.add_assoc]

theorem daysBefore_splitMonths (lengths : List Nat) (days : Nat) :
    daysBefore lengths (splitMonths lengths days).1 + (splitMonths lengths days).2 = days := by
  induction lengths generalizing days with
  | nil => simp [splitMonths, daysBefore]
  | cons length rest ih =>
    rw [splitMonths]
    split
    · simp [daysBefore]
    · next whole =>
      have left := ih (days - length)
      simp only [daysBefore]
      omega

theorem splitMonths_within {lengths : List Nat} {months days : Nat} (h : days < daysBefore lengths months) :
    (splitMonths lengths days).2 < lengths[(splitMonths lengths days).1]?.getD 0 := by
  induction lengths generalizing months days with
  | nil => exact absurd h (Nat.not_lt_zero days)
  | cons length rest ih =>
    rw [splitMonths]
    split
    · next inside => simpa using inside
    · next whole =>
      cases months with
      | zero => exact absurd h (Nat.not_lt_zero days)
      | succ months =>
        rw [daysBefore] at h
        have left := @ih months (days - length) (by omega)
        simpa using left

section Place
variable {lengths : List Nat} {months later left : Nat}

theorem splitMonths_daysBefore (within : left < lengths[months]?.getD 0) :
    splitMonths lengths (daysBefore lengths months + left) = (months, left) := by
  induction lengths generalizing months with
  | nil => exact absurd within (by simp)
  | cons length rest ih =>
    cases months with
    | zero =>
      have inside : left < length := by simpa using within
      simp [splitMonths, daysBefore, inside]
    | succ months =>
      have split := ih (by simpa using within)
      have whole : ¬length + daysBefore rest months + left < length := by omega
      rw [daysBefore, splitMonths, if_neg whole, Nat.add_assoc, Nat.add_sub_cancel_left, split]

/-- A day of an earlier month comes before all days of a later one. -/
theorem daysBefore_lt (within : left < lengths[months]?.getD 0) (earlier : months < later) :
    daysBefore lengths months + left < daysBefore lengths later := by
  induction lengths generalizing months later with
  | nil => exact absurd within (by simp)
  | cons length rest ih =>
    obtain ⟨later, rfl⟩ := Nat.exists_eq_succ_of_ne_zero (Nat.ne_zero_of_lt earlier)
    cases months with
    | zero =>
      have inside : left < length := by simpa using within
      simp only [daysBefore]
      omega
    | succ months =>
      have before := @ih months later (by simpa using within) (by omega)
      rw [daysBefore, daysBefore]
      omega

end Place

/-! ### Years -/

theorem leapYears_eq (year : Int) : leapYears year = leapYears (year - 1) + if isLeapYear year then 1 else 0 := by
  simp only [leapYears, isLeapYear, Bool.and_eq_true, Bool.or_eq_true, beq_iff_eq, bne_iff_ne]
  split <;> omega

theorem daysBefore_twelve (year : Int) :
    daysBefore (monthLengths year) 12 = 365 + if isLeapYear year then 1 else 0 := by
  rw [monthLengths]
  split <;> rfl

theorem daysBeforeYear_succ (year : Int) :
    daysBeforeYear (year + 1) = daysBeforeYear year + daysBefore (monthLengths year) 12 := by
  have leap := leapYears_eq year
  rw [daysBeforeYear, daysBeforeYear, daysBefore_twelve, Int.add_sub_cancel, leap]
  split <;> omega

/-- Four centuries have 146097 days, and within them no year starts two days away from where years of the same
length would have it start. -/
theorem daysBeforeYear_near (year : Int) :
    146097 * (year - 1970) - 506 ≤ 400 * daysBeforeYear year ∧
      400 * daysBeforeYear year ≤ 146097 * (year - 1970) + 589 := by
  have start : leapYears 1969 = 477 := by decide
  rw [daysBeforeYear, start, leapYears]
  omega

theorem daysBeforeYear_lt {year later : Int} (h : year < later) : daysBeforeYear year < daysBeforeYear later := by
  have near := daysBeforeYear_near year
  have near' := daysBeforeYear_near later
  omega

theorem daysBeforeYear_le {year later : Int} (h : year ≤ later) : daysBeforeYear year ≤ daysBeforeYear later := by
  rcases Int.lt_or_eq_of_le h with before | rfl
  · exact Int.le_of_lt (daysBeforeYear_lt before)
  · exact Int.le_refl _

theorem yearOfDay_spec (day : Int) :
    daysBeforeYear (yearOfDay day) ≤ day ∧ day < daysBeforeYear (yearOfDay day + 1) := by
  -- The year of a mean length may be one too early or one too late, and not more.
  have near := daysBeforeYear_near (1970 + day * 400 / 146097 - 1)
  have near' := daysBeforeYear_near (1970 + day * 400 / 146097 + 1 + 1)
  simp only [yearOfDay]
  split
  · next early =>
    rw [Int.sub_add_cancel]
    exact ⟨by omega, early⟩
  · split
    · next late => exact ⟨late, by omega⟩
    · next before after => exact ⟨Int.not_lt.mp before, Int.not_le.mp after⟩

theorem yearOfDay_eq {day year : Int} (from_start : daysBeforeYear year ≤ day)
    (to_end : day < daysBeforeYear (year + 1)) : yearOfDay day = year := by
  obtain ⟨start, stop⟩ := yearOfDay_spec day
  rcases Int.lt_trichotomy (yearOfDay day) year with earlier | same | later
  · have := daysBeforeYear_le (show yearOfDay day + 1 ≤ year from earlier)
    omega
  · exact same
  · have := daysBeforeYear_le (show year + 1 ≤ yearOfDay day from later)
    omega

theorem le_yearOfDay_iff {day year : Int} : year ≤ yearOfDay day ↔ daysBeforeYear year ≤ day := by
  obtain ⟨start, stop⟩ := yearOfDay_spec day
  constructor
  · intro h
    exact Int.le_trans (daysBeforeYear_le h) start
  · intro h
    refine Int.not_lt.mp fun before => ?_
    have := daysBeforeYear_le (show yearOfDay day + 1 ≤ year from before)
    omega

/-! ### Months -/

theorem daysInMonth_succ (year : Int) (month : Nat) :
    daysInMonth year (month + 1) = (monthLengths year)[month]?.getD 0 := by
  rw [daysInMonth, List.getElem?_cons_succ]

theorem one_le_daysInMonth {year : Int} {month : Nat} (first : 1 ≤ month) (last : month ≤ 12) :
    1 ≤ daysInMonth year month := by
  have lengths : ∀ leap : Bool, ∀ m < 12, 1 ≤
      ([31, if leap then 29 else 28, 31, 30, 31, 30, 31, 31, 30, 31, 30, 31][m]?.getD 0) := by decide
  obtain ⟨m, rfl⟩ := Nat.exists_eq_add_of_le' first
  rw [daysInMonth_succ]
  exact lengths (isLeapYear year) m (by omega)

namespace Regular
variable {d : Date}

theorem one_le_month (regular : d.Regular) : 1 ≤ d.month := by
  obtain ⟨year, month, day⟩ := d
  cases month with
  | zero => exact absurd (Nat.le_trans regular.one_le_day regular.day_le) (by simp [daysInMonth])
  | succ month => exact Nat.succ_pos month

theorem month_le (regular : d.Regular) : d.month ≤ 12 := by
  have positive := Nat.le_trans regular.one_le_day regular.day_le
  by_cases within : d.month ≤ 12
  · exact within
  · have outside : (0 :: monthLengths d.year)[d.month]? = none :=
      List.getElem?_eq_none (by simp [monthLengths]; omega)
    rw [daysInMonth, outside] at positive
    exact absurd positive (by simp)

/-- Every month has a first. -/
theorem firstOf {year : Int} {month : Nat} (first : 1 ≤ month) (last : month ≤ 12) : Regular ⟨year, month, 1⟩ :=
  ⟨Nat.le_refl 1, one_le_daysInMonth first last⟩

end Regular

theorem isValid_iff {d : Date} : d.isValid ↔ firstYear ≤ d.year ∧ d.year ≤ lastYear ∧ d.Regular := by
  simp only [isValid, Bool.and_eq_true, decide_eq_true_eq]
  exact ⟨fun ⟨⟨⟨first, last⟩, one⟩, most⟩ => ⟨first, last, one, most⟩,
    fun ⟨first, last, one, most⟩ => ⟨⟨⟨first, last⟩, one⟩, most⟩⟩

/-! ### Dates and days -/

theorem Regular.within {d : Date} (regular : d.Regular) : d.day - 1 < (monthLengths d.year)[d.month - 1]?.getD 0 := by
  have positive := regular.one_le_day
  have most := regular.day_le
  rw [← Nat.sub_add_cancel regular.one_le_month, daysInMonth_succ] at most
  omega

theorem dayNumber_eq {d : Date} (h : 1 ≤ d.day) :
    d.dayNumber = daysBeforeYear d.year + (daysBefore (monthLengths d.year) (d.month - 1) + (d.day - 1) : Nat) := by
  rw [dayNumber, foldl_take]
  omega

theorem dayNumber_bounds {d : Date} (regular : d.Regular) :
    daysBeforeYear d.year ≤ d.dayNumber ∧ d.dayNumber < daysBeforeYear (d.year + 1) := by
  have month_le := regular.month_le
  have before := daysBefore_lt regular.within (show d.month - 1 < 12 by omega)
  rw [dayNumber_eq regular.one_le_day, daysBeforeYear_succ]
  omega

theorem regular_ofDayNumber (day : Int) : (ofDayNumber day).Regular := by
  obtain ⟨start, stop⟩ := yearOfDay_spec day
  rw [daysBeforeYear_succ] at stop
  refine ⟨Nat.succ_pos _, ?_⟩
  simp only [ofDayNumber, daysInMonth_succ]
  have among : (day - daysBeforeYear (yearOfDay day)).toNat < daysBefore (monthLengths (yearOfDay day)) 12 := by omega
  exact splitMonths_within among

@[simp] theorem dayNumber_ofDayNumber (day : Int) : (ofDayNumber day).dayNumber = day := by
  obtain ⟨start, -⟩ := yearOfDay_spec day
  have back := daysBefore_splitMonths (monthLengths (yearOfDay day)) (day - daysBeforeYear (yearOfDay day)).toNat
  rw [dayNumber_eq (regular_ofDayNumber day).one_le_day]
  simp only [ofDayNumber, Nat.add_sub_cancel, back]
  omega

theorem ofDayNumber_dayNumber {d : Date} (regular : d.Regular) : ofDayNumber d.dayNumber = d := by
  obtain ⟨start, stop⟩ := dayNumber_bounds regular
  have days : (d.dayNumber - daysBeforeYear d.year).toNat =
      daysBefore (monthLengths d.year) (d.month - 1) + (d.day - 1) := by
    rw [dayNumber_eq regular.one_le_day]
    omega
  simp only [ofDayNumber, yearOfDay_eq start stop, days, splitMonths_daysBefore regular.within,
    Nat.sub_add_cancel regular.one_le_month, Nat.sub_add_cancel regular.one_le_day]

/-! ### The order of days and dates -/

section Order
variable {d e : Date}

theorem monthIndex_inj (hd : d.Regular) (he : e.Regular) (same : d.monthIndex = e.monthIndex) :
    d.year = e.year ∧ d.month = e.month := by
  have first := hd.one_le_month
  have last := hd.month_le
  have first' := he.one_le_month
  have last' := he.month_le
  simp only [monthIndex] at same
  omega

theorem dayNumber_lt_of_monthIndex_lt (hd : d.Regular) (he : e.Regular) (h : d.monthIndex < e.monthIndex) :
    d.dayNumber < e.dayNumber := by
  have first := hd.one_le_month
  have last' := he.month_le
  simp only [monthIndex] at h
  -- Either a whole year ends in between, or the two months are months of one year.
  rcases Int.lt_or_eq_of_le (show d.year ≤ e.year by have := hd.month_le; omega) with earlier | same
  · have stop := (dayNumber_bounds hd).2
    have start := (dayNumber_bounds he).1
    have := daysBeforeYear_le (show d.year + 1 ≤ e.year from earlier)
    omega
  · have before := daysBefore_lt hd.within (show d.month - 1 < e.month - 1 by omega)
    rw [dayNumber_eq hd.one_le_day, dayNumber_eq he.one_le_day, ← same]
    omega

/-- Within a month the days are counted on. -/
theorem dayNumber_sub_dayNumber (hd : d.Regular) (he : e.Regular) (same : d.monthIndex = e.monthIndex) :
    e.dayNumber - d.dayNumber = e.day - d.day := by
  obtain ⟨year, month⟩ := monthIndex_inj hd he same
  rw [dayNumber, dayNumber, year, month]
  omega

/-- The first of a month is at or before a day if the month is that of the day or an earlier one. -/
theorem dayNumber_first_le_iff (hd : d.Regular) (first : d.day = 1) (he : e.Regular) :
    d.dayNumber ≤ e.dayNumber ↔ d.monthIndex ≤ e.monthIndex := by
  rcases Int.lt_trichotomy d.monthIndex e.monthIndex with earlier | same | later
  · have := dayNumber_lt_of_monthIndex_lt hd he earlier
    omega
  · have := dayNumber_sub_dayNumber hd he same
    have := he.one_le_day
    omega
  · have := dayNumber_lt_of_monthIndex_lt he hd later
    omega

end Order

end Date
end SpanSearch
