import Mathlib.Order.Bounds.Basic
import SpanSearch.Proofs.Instants
import SpanSearch.Time.Math

/-! Rounding down to a unit of time. Outside of leap seconds it gives the latest start of the unit, and rounding down
    again changes nothing; within one the same goes for all units but weeks, which may come out on a Monday. -/

namespace SpanSearch

/-! ### Starts of units -/

/-- The unit starts at the instant, by the calendar and the clock of UTC. Weeks are counted from a Sunday, the
fourth day of 1970. -/
def TimeUnit.Starts : TimeUnit → Instant → Prop
  | year, s => s.AtMidnight ∧ s.date.month = 1 ∧ s.date.day = 1
  | month, s => s.AtMidnight ∧ s.date.day = 1
  | week, s => s.AtMidnight ∧ 7 ∣ s.day - Date.dayNumber ⟨1970, 1, 4⟩
  | day, s => s.AtMidnight
  | hour, s => s.seconds % 3600 = 0 ∧ s.nanos = 0
  | minute, s => s.seconds % 60 = 0 ∧ s.nanos = 0
  | second, s => s.nanos = 0
  | millisecond, s => s.nanos % 10 ^ 6 = 0

namespace Instant
variable {s t b c : Instant}

theorem AtMidnight.le_iff (midnight : s.AtMidnight) : s ≤ t ↔ s.day ≤ t.day := by
  simp only [AtMidnight] at midnight
  simp only [Instant.le_iff, day]
  omega

/-- Of two months the first days are in the order of the months. -/
theorem AtMidnight.first_le_iff (midnight : s.AtMidnight) (first : s.date.day = 1) :
    s ≤ t ↔ s.date.monthIndex ≤ t.date.monthIndex := by
  rw [midnight.le_iff, ← dayNumber_date, ← dayNumber_date,
    Date.dayNumber_first_le_iff s.regular_date first t.regular_date]

/-- The first of a month in the year of an instant is a date of the range. -/
theorem isValid_first (t : Instant) {month : Nat} (first : 1 ≤ month) (last : month ≤ 12) :
    (⟨t.date.year, month, 1⟩ : Date).isValid :=
  Date.isValid_iff.mpr ⟨t.date_year.1, t.date_year.2, .firstOf first last⟩

/-- The instant is in a leap second at the end of a day. -/
def EndsDay (t : Instant) : Prop :=
  10 ^ 9 ≤ t.nanos ∧ t.seconds % 86400 = 86399

/-- The instant is in a leap second at the end of a day that is no Sunday. -/
def EndsWeekday (t : Instant) : Prop :=
  t.EndsDay ∧ Date.weekday t.day ≠ 0

theorem Ordinary.not_endsDay (ordinary : t.Ordinary) : ¬t.EndsDay :=
  fun ⟨leap, _⟩ => Nat.not_lt.mpr leap ordinary

theorem stamp_div_day (inside : ¬t.EndsDay) : t.stamp / (86400 * 10 ^ 9) = t.day := by
  have nanos_lt := t.nanos_lt
  simp only [EndsDay, stamp, day] at inside ⊢
  omega

/-- A leap second at the end of a day counts for the next day. -/
theorem EndsDay.stamp_div_day (ends : t.EndsDay) : t.stamp / (86400 * 10 ^ 9) = t.day + 1 := by
  have nanos_lt := t.nanos_lt
  simp only [EndsDay, stamp, day] at ends ⊢
  omega

/-! ### Rounding down outside of leap seconds -/

section Ordinary
variable {unit : Int}

theorem Ordinary.of_add? {added : Int} (ordinary : t.Ordinary) (h : t.add? added = some b) : b.Ordinary := by
  rw [add?_of_ordinary ordinary, ofSum?_eq_some_iff] at h
  exact h.1

theorem Ordinary.of_truncate? (ordinary : t.Ordinary) (h : t.truncate? unit = some b) : b.Ordinary := by
  rw [truncate?_eq] at h
  split at h
  · exact ordinary.of_add? h
  · cases h

theorem exists_add?_back (ordinary : t.Ordinary) {back : Int} (nonneg : 0 ≤ back) (late : -10 ^ 20 ≤ t.stamp - back) :
    ∃ b, t.add? (-back) = some b := by
  obtain ⟨-, below⟩ := t.seconds_bounds
  simp only [Ordinary, stamp] at ordinary late
  rw [add?_of_ordinary ordinary]
  exact exists_ofSum? (by omega) (by omega)

/-- Wherever 64 bits count the nanoseconds there are instants to round down to. -/
theorem exists_truncate? (ordinary : t.Ordinary) (fits : fitsWord 64 t.stamp) (positive : 0 < unit)
    (short : unit ≤ 10 ^ 18) : ∃ b, t.truncate? unit = some b := by
  have excess := Int.emod_lt_of_pos t.stamp positive
  have bounds := fitsWord_iff.mp fits
  rw [truncate?_eq, if_pos fits]
  exact exists_add?_back ordinary (Int.emod_nonneg _ (Int.ne_of_gt positive)) (by omega)

end Ordinary
end Instant

/-! ### Weeks -/

namespace TimeUnit
variable {unit : TimeUnit} {t b c : Instant}
open Instant

/-- The length of the units that are rounded down to by their nanoseconds since 1970. -/
def span? : TimeUnit → Option Int
  | year | month | week => none
  | day => some (86400 * 10 ^ 9)
  | hour => some (3600 * 10 ^ 9)
  | minute => some (60 * 10 ^ 9)
  | second => some (10 ^ 9)
  | millisecond => some (10 ^ 6)

theorem roundDown?_of_span? {n : Int} (h : unit.span? = some n) (t : Instant) : unit.roundDown? t = t.truncate? n := by
  cases unit <;> cases h <;> rfl

theorem span?_bounds {n : Int} (h : unit.span? = some n) : 0 < n ∧ n ≤ 10 ^ 18 := by
  cases unit <;> cases h <;> decide

theorem roundDown?_week (t : Instant) :
    week.roundDown? t = (t.truncate? (86400 * 10 ^ 9)).bind (·.add? (-(86400 * 10 ^ 9 * Date.weekday t.day))) :=
  rfl

theorem weekday_bounds (day : Int) : 0 ≤ Date.weekday day ∧ Date.weekday day < 7 := by
  rw [Date.weekday]
  omega

theorem stamp_of_week (h : week.roundDown? t = some b) :
    b.stamp = t.stamp - t.stamp % (86400 * 10 ^ 9) - 86400 * 10 ^ 9 * Date.weekday t.day := by
  obtain ⟨nonneg, -⟩ := weekday_bounds t.day
  rw [roundDown?_week] at h
  obtain ⟨midnight, truncated, stepped⟩ := Option.bind_eq_some_iff.mp h
  rw [stamp_of_add? (by omega) stepped, stamp_of_truncate? (by decide) truncated]

/-- Rounding down to a day comes out of a leap second, unless it ends the day. -/
theorem truncate?_day_cases (h : t.truncate? (86400 * 10 ^ 9) = some b) :
    ¬t.EndsDay ∧ b.Ordinary ∨ t.EndsDay ∧ b.seconds = t.seconds ∧ b.nanos = 10 ^ 9 := by
  by_cases ordinary : t.Ordinary
  · exact .inl ⟨ordinary.not_endsDay, ordinary.of_truncate? h⟩
  have leap := Nat.not_lt.mp ordinary
  have minute := t.leap leap
  have nanos_lt := t.nanos_lt
  rw [truncate?_eq] at h
  split at h
  · by_cases ends : t.seconds % 86400 = 86399
    · have excess : t.stamp % (86400 * 10 ^ 9) = t.nanos - 10 ^ 9 := by
        simp only [stamp]
        omega
      rw [add?_short leap (by omega) (by omega), ofParts?_eq_some_iff] at h
      exact .inr ⟨⟨leap, ends⟩, h.1, by omega⟩
    · have excess : 10 ^ 9 ≤ t.stamp % (86400 * 10 ^ 9) := by
        simp only [stamp]
        omega
      rw [add?_long leap excess, ofSum?_eq_some_iff] at h
      exact .inl ⟨fun inside => ends inside.2, h.1⟩
  · cases h

/-- Rounding down to a week leads to the last Sunday, or from a leap second that ends another day to the day
after it. -/
theorem day_of_week (h : week.roundDown? t = some b) :
    ¬t.EndsWeekday ∧ b.day = t.day - Date.weekday t.day ∨
      t.EndsWeekday ∧ b.day = t.day - Date.weekday t.day + 1 := by
  have stamp := stamp_of_week h
  obtain ⟨midnight, truncated, stepped⟩ := Option.bind_eq_some_iff.mp (roundDown?_week t ▸ h)
  -- The stamp of a leap second that ends a day lies in the next day, but the weekday is that of the day itself.
  rcases truncate?_day_cases truncated with ⟨inside, ordinary⟩ | ⟨ends, seconds, nanos⟩
  · have day := stamp_div_day (ordinary.of_add? stepped).not_endsDay
    have day' := stamp_div_day inside
    exact .inl ⟨fun exception => inside exception.1, by omega⟩
  · by_cases sunday : Date.weekday t.day = 0
    · rw [sunday, Int.mul_zero, Int.neg_zero, add?_zero] at stepped
      cases stepped
      refine .inl ⟨fun exception => exception.2 sunday, ?_⟩
      rw [Instant.day, seconds, sunday, Int.sub_zero, Instant.day]
    · obtain ⟨nonneg, -⟩ := weekday_bounds t.day
      rw [add?_long (Nat.le_of_eq nanos.symm) (by omega), ofSum?_eq_some_iff] at stepped
      have day := stamp_div_day (Ordinary.not_endsDay stepped.1)
      have day' := ends.stamp_div_day
      exact .inr ⟨⟨ends, sunday⟩, by omega⟩

/-! ### The latest start -/

theorem exists_roundDown? (ordinary : t.Ordinary) (counted : unit ≠ year → unit ≠ month → fitsWord 64 t.stamp) :
    ∃ b, unit.roundDown? t = some b := by
  cases h : unit.span? with
  | some n =>
    obtain ⟨positive, short⟩ := span?_bounds h
    rw [roundDown?_of_span? h]
    exact exists_truncate? ordinary (counted (by rintro rfl; cases h) (by rintro rfl; cases h)) positive short
  | none =>
    cases unit with
    | year => exact exists_ofDate? (t.isValid_first (by decide) (by decide))
    | month => exact exists_ofDate? (t.isValid_first t.regular_date.one_le_month t.regular_date.month_le)
    | week =>
      have fits := counted (by decide) (by decide)
      have bounds := fitsWord_iff.mp fits
      obtain ⟨nonneg, short⟩ := weekday_bounds t.day
      obtain ⟨midnight, truncated⟩ := exists_truncate? ordinary fits (show (0 : Int) < 86400 * 10 ^ 9 by decide)
        (by decide)
      -- Where 64 bits count the nanoseconds, instants begin much more than a week before.
      have stamp := stamp_of_truncate? (by decide) truncated
      rw [roundDown?_week, truncated]
      exact exists_add?_back (ordinary.of_truncate? truncated) (by omega) (by omega)
    | _ => cases h

theorem roundDown?_eq_none (calendar : unit ≠ year ∧ unit ≠ month) (uncounted : ¬fitsWord 64 t.stamp) :
    unit.roundDown? t = none := by
  have none (n : Int) : t.truncate? n = none := by rw [truncate?_eq, if_neg uncounted]
  cases unit with
  | year => exact absurd rfl calendar.1
  | month => exact absurd rfl calendar.2
  | week => rw [roundDown?_week, none]; rfl
  | _ => exact none _

theorem isGreatest_year (h : year.roundDown? t = some b) : IsGreatest {s | year.Starts s ∧ s ≤ t} b := by
  obtain ⟨midnight, date⟩ := (ofDate?_eq_some_iff (t.isValid_first (by decide) (by decide))).mp h
  have january : b.date.month = 1 := by rw [date]
  have first : b.date.day = 1 := by rw [date]
  have year_eq : b.date.year = t.date.year := by rw [date]
  have month_pos := t.regular_date.one_le_month
  have month_le := t.regular_date.month_le
  constructor
  · refine ⟨⟨midnight, january, first⟩, (midnight.first_le_iff first).mpr ?_⟩
    simp only [Date.monthIndex]
    omega
  · rintro s ⟨⟨midnight', january', first'⟩, before⟩
    rw [midnight'.first_le_iff first', Date.monthIndex, Date.monthIndex] at before ⊢
    omega

theorem isGreatest_month (h : month.roundDown? t = some b) : IsGreatest {s | month.Starts s ∧ s ≤ t} b := by
  obtain ⟨midnight, date⟩ :=
    (ofDate?_eq_some_iff (t.isValid_first t.regular_date.one_le_month t.regular_date.month_le)).mp h
  have first : b.date.day = 1 := by rw [date]
  have index : b.date.monthIndex = t.date.monthIndex := by rw [date]; rfl
  constructor
  · exact ⟨⟨midnight, first⟩, (midnight.first_le_iff first).mpr (Int.le_of_eq index)⟩
  · rintro s ⟨⟨midnight', first'⟩, before⟩
    rw [midnight'.first_le_iff first'] at before ⊢
    exact index ▸ before

theorem isGreatest_week (ordinary : t.Ordinary) (h : week.roundDown? t = some b) :
    IsGreatest {s | week.Starts s ∧ s ≤ t} b := by
  have fourth : Date.dayNumber ⟨1970, 1, 4⟩ = 3 := by decide
  have midnight : b.AtMidnight := by
    have stamp := stamp_of_week h
    obtain ⟨day, truncated, stepped⟩ := Option.bind_eq_some_iff.mp (roundDown?_week t ▸ h)
    have ordinary' := (ordinary.of_truncate? truncated).of_add? stepped
    simp only [Ordinary, AtMidnight, Instant.stamp] at stamp ordinary' ⊢
    omega
  have day_eq : b.day = t.day - Date.weekday t.day := by
    rcases day_of_week h with ⟨-, same⟩ | ⟨exception, -⟩
    · exact same
    · exact absurd exception.1 ordinary.not_endsDay
  rw [Date.weekday] at day_eq
  constructor
  · exact ⟨⟨midnight, by omega⟩, midnight.le_iff.mpr (by omega)⟩
  · rintro s ⟨⟨midnight', sunday⟩, before⟩
    rw [midnight'.le_iff] at before ⊢
    omega

theorem isGreatest_span {n : Int} (span : unit.span? = some n) (ordinary : t.Ordinary)
    (h : unit.roundDown? t = some b) : IsGreatest {s | unit.Starts s ∧ s ≤ t} b := by
  rw [roundDown?_of_span? span] at h
  have ordinary' := ordinary.of_truncate? h
  have rounded := stamp_of_truncate? (span?_bounds span).1 h
  simp only [Ordinary, Instant.stamp] at ordinary ordinary' rounded
  -- By their parts, the instants that are starts are those with no remainder, whatever the unit.
  refine ⟨⟨?_, ?_⟩, ?_⟩
  · cases unit <;> cases span <;> simp only [Starts, AtMidnight] at * <;> omega
  · rw [Instant.le_iff]
    cases unit <;> cases span <;> omega
  · rintro s ⟨starts, before⟩
    rw [Instant.le_iff] at before ⊢
    cases unit <;> cases span <;> simp only [Starts, AtMidnight] at * <;> omega

theorem isGreatest_of_roundDown? (ordinary : t.Ordinary) (h : unit.roundDown? t = some b) :
    IsGreatest {s | unit.Starts s ∧ s ≤ t} b := by
  cases span : unit.span? with
  | some n => exact isGreatest_span span ordinary h
  | none =>
    cases unit with
    | year => exact isGreatest_year h
    | month => exact isGreatest_month h
    | week => exact isGreatest_week ordinary h
    | _ => cases span

theorem roundDown?_eq_none_iff (ordinary : t.Ordinary) :
    unit.roundDown? t = none ↔ unit ≠ year ∧ unit ≠ month ∧ ¬(-2 ^ 63 ≤ t.stamp ∧ t.stamp < 2 ^ 63) := by
  constructor
  · intro failed
    have uncounted : ¬(unit ≠ year → unit ≠ month → fitsWord 64 t.stamp) := fun counted => by
      obtain ⟨b, found⟩ := exists_roundDown? ordinary counted
      rw [failed] at found
      cases found
    rw [fitsWord_iff] at uncounted
    simpa only [Classical.not_imp] using uncounted
  · rintro ⟨no_year, no_month, uncounted⟩
    exact roundDown?_eq_none ⟨no_year, no_month⟩ (mt fitsWord_iff.mp uncounted)

end TimeUnit

namespace MathTerm
open TimeUnit
variable {unit : TimeUnit} {t b c : Instant}

theorem apply_round_eq_ok_iff : (round unit).apply t = .ok b ↔ unit.roundDown? t = some b := by
  rw [apply]
  cases unit.roundDown? t <;> simp

theorem apply_round_eq_error_iff {e : TimeError} :
    (round unit).apply t = .error e ↔ e = .outOfRange ∧ unit.roundDown? t = none := by
  rw [apply]
  cases unit.roundDown? t <;> simp [eq_comm]

/-- Rounding an instant down that is in no leap second gives the latest start of the unit at or before it. It fails
only as out of range, and only for the units whose starts are reckoned from the nanoseconds since 1970, where a
signed 64-bit word does not hold these. -/
theorem isGreatest_round (unit : TimeUnit) {t : Instant} (ordinary : t.Ordinary) :
    (∀ b, (round unit).apply t = .ok b → IsGreatest {s | unit.Starts s ∧ s ≤ t} b) ∧
    ∀ e, (round unit).apply t = .error e ↔
      e = .outOfRange ∧ unit ≠ .year ∧ unit ≠ .month ∧ ¬(-2 ^ 63 ≤ t.stamp ∧ t.stamp < 2 ^ 63) := by
  constructor
  · intro b applied
    exact isGreatest_of_roundDown? ordinary (apply_round_eq_ok_iff.mp applied)
  · intro e
    rw [apply_round_eq_error_iff, roundDown?_eq_none_iff ordinary]

/-- Wednesday, June 1st 1960, at 08:30:12.5, is in the week of Sunday, May 29th. -/
theorem isGreatest_round_before_1970 : ∃ t b : Instant, t.Ordinary ∧ t.date = ⟨1960, 6, 1⟩ ∧
    t.clock = (30612, 500000000) ∧ (round .week).apply t = .ok b ∧ b.date = ⟨1960, 5, 29⟩ ∧
    IsGreatest {s | TimeUnit.week.Starts s ∧ s ≤ t} b := by
  let wednesday : Instant := ⟨-302455788, 500000000, by decide, by decide, by decide, by decide⟩
  let sunday : Instant := ⟨-302745600, 0, by decide, by decide, by decide, by decide⟩
  have ordinary : wednesday.Ordinary := show 500000000 < 10 ^ 9 by decide
  have rounded : (round .week).apply wednesday = .ok sunday := by decide
  exact ⟨wednesday, sunday, ordinary, by decide, by decide, rounded, by decide,
    (isGreatest_round .week ordinary).1 sunday rounded⟩

end MathTerm

/-! ### Rounding down twice -/

namespace TimeUnit
open Instant
variable {unit : TimeUnit} {t b c : Instant}

theorem roundDown?_twice_of_calendar (calendar : unit = year ∨ unit = month) (first : unit.roundDown? t = some b)
    (second : unit.roundDown? b = some c) : c = b := by
  have same : unit.roundDown? b = unit.roundDown? t := by
    rcases calendar with rfl | rfl
    · obtain ⟨-, date⟩ := (ofDate?_eq_some_iff (t.isValid_first (by decide) (by decide))).mp first
      rw [roundDown?, roundDown?, date]
    · obtain ⟨-, date⟩ :=
        (ofDate?_eq_some_iff (t.isValid_first t.regular_date.one_le_month t.regular_date.month_le)).mp first
      rw [roundDown?, roundDown?, date]
  exact Option.some.inj (second.symm.trans (same.trans first))

theorem roundDown?_twice_of_span {n : Int} (span : unit.span? = some n) (first : unit.roundDown? t = some b)
    (second : unit.roundDown? b = some c) : c = b := by
  rw [roundDown?_of_span? span] at first second
  refine truncate?_of_dvd second ?_
  rw [stamp_of_truncate? (span?_bounds span).1 first]
  exact Int.emod_eq_zero_of_dvd ⟨t.stamp / n, by rw [Int.sub_eq_iff_eq_add, Int.mul_ediv_add_emod]⟩

/-- Rounding down to a week again goes back to the last Sunday. -/
theorem roundDown?_twice_week (first : week.roundDown? t = some b) (second : week.roundDown? b = some c) :
    b.add? (-(86400 * 10 ^ 9 * Date.weekday b.day)) = some c := by
  have stamp := stamp_of_week first
  obtain ⟨midnight, truncated, stepped⟩ := Option.bind_eq_some_iff.mp (roundDown?_week b ▸ second)
  rwa [truncate?_of_dvd truncated (by omega)] at stepped

theorem weekday_of_week (h : week.roundDown? t = some b) :
    ¬t.EndsWeekday ∧ Date.weekday b.day = 0 ∨ t.EndsWeekday ∧ Date.weekday b.day = 1 := by
  rcases day_of_week h with ⟨sunday, day⟩ | ⟨monday, day⟩
  · exact .inl ⟨sunday, by simp only [Date.weekday] at day ⊢; omega⟩
  · exact .inr ⟨monday, by simp only [Date.weekday] at day ⊢; omega⟩

end TimeUnit

namespace MathTerm
open TimeUnit
variable {unit : TimeUnit} {t b c : Instant}

/-- Rounding down again changes nothing, but for weeks from within a leap second at the end of a day that is no
Sunday: they come out on a Monday, and from there on the Sunday before it. -/
theorem round_round_iff (first : (round unit).apply t = .ok b) (second : (round unit).apply b = .ok c) :
    (c = b ↔ ¬(unit = .week ∧ t.EndsWeekday)) ∧
    (unit = .week ∧ t.EndsWeekday → Date.weekday b.day = 1 ∧ c.stamp = b.stamp - 86400 * 10 ^ 9) := by
  rw [apply_round_eq_ok_iff] at first second
  by_cases week : unit = .week
  · subst week
    have again := roundDown?_twice_week first second
    rcases weekday_of_week first with ⟨regular, sunday⟩ | ⟨exception, monday⟩
    · rw [sunday, Int.mul_zero, Int.neg_zero, Instant.add?_zero] at again
      exact ⟨iff_of_true (Option.some.inj again).symm fun h => regular h.2, fun h => absurd h.2 regular⟩
    · have back := Instant.stamp_of_add? (by omega) again
      rw [monday, Int.mul_one] at back
      refine ⟨iff_of_false (fun same => ?_) fun h => h ⟨rfl, exception⟩, fun _ => ⟨monday, back⟩⟩
      rw [same] at back
      omega
  · have same : c = b := by
      cases span : unit.span? with
      | some n => exact roundDown?_twice_of_span span first second
      | none =>
        refine roundDown?_twice_of_calendar ?_ first second
        cases unit with
        | year => exact .inl rfl
        | month => exact .inr rfl
        | week => exact absurd rfl week
        | _ => cases span
    exact ⟨iff_of_true same fun h => week h.1, fun h => absurd h.1 week⟩

/-- The leap second at the end of Saturday, December 31st 2016, comes out on Monday, December 26th. -/
theorem round_round_iff_leap_saturday : ∃ t b c : Instant, t.date = ⟨2016, 12, 31⟩ ∧ t.clock = (86399, 10 ^ 9) ∧
    (round .week).apply t = .ok b ∧ (round .week).apply b = .ok c ∧ b.date = ⟨2016, 12, 26⟩ ∧
    Date.weekday b.day = 1 ∧ c.stamp = b.stamp - 86400 * 10 ^ 9 := by
  let saturday : Instant := ⟨1483228799, 10 ^ 9, by decide, by decide, by decide, by decide⟩
  let monday : Instant := ⟨1482710400, 0, by decide, by decide, by decide, by decide⟩
  let sunday : Instant := ⟨1482624000, 0, by decide, by decide, by decide, by decide⟩
  have first : (round .week).apply saturday = .ok monday := by decide
  have second : (round .week).apply monday = .ok sunday := by decide
  have ends : saturday.EndsWeekday := ⟨⟨by decide, by decide⟩, by decide⟩
  exact ⟨saturday, monday, sunday, by decide, by decide, first, second, by decide,
    (round_round_iff first second).2 ⟨rfl, ends⟩⟩

/-- Rounding down to a week is not idempotent within leap seconds. -/
theorem not_round_round_leap_saturday : ¬∀ (unit : TimeUnit) (t b c : Instant), (round unit).apply t = .ok b →
    (round unit).apply b = .ok c → c = b := by
  intro idempotent
  have same := idempotent .week ⟨1483228799, 10 ^ 9, by decide, by decide, by decide, by decide⟩
    ⟨1482710400, 0, by decide, by decide, by decide, by decide⟩
    ⟨1482624000, 0, by decide, by decide, by decide, by decide⟩ (by decide) (by decide)
  exact absurd same (by decide)

end MathTerm
end SpanSearch
