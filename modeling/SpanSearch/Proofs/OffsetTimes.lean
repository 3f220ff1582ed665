import Mathlib.Data.List.Basic
import SpanSearch.Proofs.AbsoluteForms

/-! Times that are spelled in full, with an offset and without one. One form reads the former and another the latter;
    they accept the same times of day, and the offset moves the seconds and nothing else. -/

namespace SpanSearch

/-! ### Clocks -/

namespace ClockTime
open Instant
variable {c : ClockTime} {offset : Int} {t : Instant}

def date (c : ClockTime) : Date :=
  ⟨c.year, c.month, c.day⟩

/-- There is such a date and such a time of day. -/
def Shown (c : ClockTime) : Prop :=
  c.date.isValid ∧ c.hour < 24 ∧ c.minute < 60 ∧ c.second ≤ 60

/-- The seconds since 1970 of a clock in UTC. A leap second is part of the second before. -/
def seconds (c : ClockTime) : Int :=
  86400 * c.date.dayNumber + 3600 * c.hour + 60 * c.minute + min c.second 59

/-- The nanoseconds, those that a leap second counts on from included. -/
def fraction (c : ClockTime) : Nat :=
  (if c.second = 60 then 10 ^ 9 else 0) + c.nanos

theorem instant?_eq_some_iff : c.instant? offset = some t ↔
    c.Shown ∧ t.seconds = c.seconds - offset ∧ t.nanos = c.fraction := by
  simp only [instant?, Option.ite_none_right_eq_some, ofParts?_eq_some_iff, Bool.and_eq_true, decide_eq_true_eq,
    beq_iff_eq, Shown, seconds, fraction, date, and_assoc]
  refine and_congr_right fun _ => and_congr_right fun _ => and_congr_right fun _ => and_congr_right fun second => ?_
  split <;> omega

/-- In the years of four digits every time that the clock can show has an instant, whatever the offset. -/
theorem exists_instant?_iff (year : 0 ≤ c.year ∧ c.year ≤ 9999) (nanos_lt : c.nanos < 10 ^ 9)
    (small : offset.natAbs < 86400 ∧ offset % 60 = 0) : (∃ t, c.instant? offset = some t) ↔ c.Shown := by
  constructor
  · rintro ⟨t, found⟩
    exact (instant?_eq_some_iff.mp found).1
  · intro shown
    -- An offset is less than a day, and these years end long before the range does. It is in whole minutes, so that a
    -- leap second stays at the end of one.
    obtain ⟨valid, hour, minute, second⟩ := id shown
    obtain ⟨start, stop⟩ := Date.dayNumber_bounds (Date.isValid_iff.mp valid).2.2
    have from_first : Date.daysBeforeYear 0 ≤ Date.daysBeforeYear c.date.year := Date.daysBeforeYear_le year.1
    have to_last : Date.daysBeforeYear (c.date.year + 1) ≤ Date.daysBeforeYear 10000 :=
      Date.daysBeforeYear_le (show c.year + 1 ≤ 10000 by omega)
    have first_day : Date.daysBeforeYear 0 = -719528 := by decide
    have last_day : Date.daysBeforeYear 10000 = 2932897 := by decide
    have nanos : c.fraction < 2 * 10 ^ 9 ∧ (10 ^ 9 ≤ c.fraction → c.second = 60) := by
      rw [fraction]
      split <;> omega
    obtain ⟨t, found⟩ := @exists_ofParts? (c.seconds - offset) c.fraction (by rw [seconds]; omega)
      (by rw [seconds]; omega) nanos.1 (by rw [seconds]; omega)
    exact ⟨t, instant?_eq_some_iff.mpr ⟨shown, ofParts?_eq_some_iff.mp found⟩⟩

end ClockTime

/-! ### Spelled parts -/

theorem digitsFrom_lt {digits : List Nat} (small : ∀ d ∈ digits, d < 10) (start : Nat) :
    Decimal.digitsFrom start digits < (start + 1) * 10 ^ digits.length := by
  induction digits generalizing start with
  | nil => simp [Decimal.digitsFrom]
  | cons d rest ih =>
    obtain ⟨first, later⟩ := List.forall_mem_cons.mp small
    calc Decimal.digitsFrom (10 * start + d) rest < (10 * start + d + 1) * 10 ^ rest.length := ih later _
      _ ≤ ((start + 1) * 10) * 10 ^ rest.length := Nat.mul_le_mul_right _ (by omega)
      _ = (start + 1) * 10 ^ (d :: rest).length := by rw [List.length_cons, Nat.pow_succ', Nat.mul_assoc]

theorem digitValue_lt {text : List Char} (digital : ∀ c ∈ text, isDigit c) : ∀ n ∈ text.map digitValue, n < 10 := by
  intro n member
  obtain ⟨c, among, rfl⟩ := List.mem_map.mp member
  have digit := isDigit_iff.mp (digital c among)
  have zero : '0'.toNat = 48 := rfl
  rw [digitValue, zero]
  omega

theorem Digits.value_lt {count : Nat} (d : Digits count) : d.value < 10 ^ count := by
  have bound := digitsFrom_lt (digitValue_lt d.digital) 0
  rwa [List.length_map, d.length_text, Nat.zero_add, Nat.one_mul] at bound

theorem fractionNanos_lt {digits : List Nat} (small : ∀ d ∈ digits, d < 10) :
    Absolute.fractionNanos digits < 10 ^ 9 := by
  have kept : ∀ d ∈ digits.take 9, d < 10 := fun d member => small d (List.mem_of_mem_take member)
  have short : (digits.take 9).length ≤ 9 := List.length_take_le 9 digits
  calc Decimal.digitsFrom 0 (digits.take 9) * 10 ^ (9 - (digits.take 9).length)
      < (0 + 1) * 10 ^ (digits.take 9).length * 10 ^ (9 - (digits.take 9).length) :=
        Nat.mul_lt_mul_of_pos_right (digitsFrom_lt kept 0) (Nat.pow_pos (by decide))
    _ = 10 ^ 9 := by rw [Nat.zero_add, Nat.one_mul, ← Nat.pow_add, Nat.add_sub_cancel' short]

theorem SpelledClock.nanos?_lt {c : SpelledClock} {nanos : Nat} (h : c.nanos? = some nanos) : nanos < 10 ^ 9 := by
  rw [nanos?] at h
  split at h
  · cases h
    decide
  · cases h
  · next digits _ spelled =>
    cases h
    exact fractionNanos_lt (digitValue_lt (c.digital digits spelled))

theorem SpelledOffset.seconds_small (o : SpelledOffset) : o.seconds.natAbs < 86400 ∧ o.seconds % 60 = 0 := by
  rcases o with _ | ⟨sign, hours, minutes, hours_lt, minutes_lt⟩
  · exact ⟨show (0 : Int).natAbs < 86400 by decide, rfl⟩
  · cases sign <;> simp only [seconds, OffsetSign.factor] <;> omega

/-- A time of day on a date, with a `T` or a blank between them. -/
structure SpelledTime where
  date : SpelledDate
  letter : Bool
  clock : SpelledClock

namespace SpelledTime
open Absolute Instant
variable {x : SpelledTime} {o : SpelledOffset} {now t u : Instant}

def separator (x : SpelledTime) : Char :=
  if x.letter then 'T' else ' '

def text (x : SpelledTime) : List Char :=
  x.date.text ++ x.separator :: x.clock.text

theorem append_text (x : SpelledTime) (rest : List Char) :
    x.text ++ rest = x.date.text ++ x.separator :: (x.clock.text ++ rest) := by
  simp [text]

/-- What the clock shows, if the fraction has digits. -/
def shown? (x : SpelledTime) : Option ClockTime :=
  x.clock.on? x.date.start

theorem separator_known (x : SpelledTime) : x.separator ∈ separators := by
  rw [separator]
  split <;> decide

section Shown
variable {c : ClockTime} (h : x.shown? = some c)
include h

theorem year_of_shown? : 0 ≤ c.year ∧ c.year ≤ 9999 := by
  obtain ⟨nanos, -, rfl⟩ := Option.map_eq_some_iff.mp h
  have small := x.date.year.value_lt
  simp only [SpelledDate.start]
  omega

theorem nanos_of_shown? : c.nanos < 10 ^ 9 := by
  obtain ⟨nanos, spelled, rfl⟩ := Option.map_eq_some_iff.mp h
  exact SpelledClock.nanos?_lt spelled

end Shown

/-! ### Two forms -/

/-- Other than with an offset a time is read as a time of day after the letter or the blank. -/
theorem read?_text (x : SpelledTime) (rest : List Char) : Absolute.read? (x.text ++ rest) =
    (strict? (x.text ++ rest)).or (timeOfDay? x.date.start (x.clock.text ++ rest)) := by
  have parsed := x.date.yearMonthDay_text (x.separator :: (x.clock.text ++ rest))
  rw [← append_text] at parsed
  rw [Form.read?_eq_look, Form.look, parsed]
  cases reads : strict? (x.text ++ rest) with
  | some t => exact reads
  | none =>
    cases letter : x.letter with
    | true => simp [separator, letter, Form.read?, dateLetterTime?, parsed]
    | false => simp [separator, letter, Form.read?, dateBlankTime?, parsed]

theorem read?_without_offset (x : SpelledTime) : Absolute.read? x.text = x.shown?.bind (·.instant? 0) := by
  have ends : EndsClock [] := fun c head => by cases head
  have strict : strict? (x.text ++ []) = none := by
    rw [append_text, strict?_spelled x.date x.clock x.separator_known ends]
    cases x.clock.on? x.date.start <;> rfl
  rw [← List.append_nil x.text, read?_text, strict, timeOfDay?_spelled x.clock ends]
  rfl

theorem read?_with_offset (x : SpelledTime) (o : SpelledOffset) :
    Absolute.read? (x.text ++ o.text) = x.shown?.bind (·.instant? o.seconds) := by
  have strict := strict?_spelled x.date x.clock x.separator_known o.endsClock_text
  rw [read?_text, timeOfDay?_offset, append_text, strict, o.offset_text, Option.or_none]
  rfl

/-! ### Whole expressions -/

theorem resolve_eq_ok_iff_read? (x : SpelledTime) {after : List Char} (plain : ∀ c ∈ after, IsPlain c) :
    resolve (String.ofList (x.text ++ after)) now = .ok t ↔ Absolute.read? (x.text ++ after) = some t := by
  obtain ⟨c, more, year, digit⟩ := x.date.year.exists_cons
  obtain ⟨later, same⟩ : ∃ later, x.text ++ after = c :: later := by simp [text, SpelledDate.text, year]
  have plain_end : ∀ d ∈ x.clock.text ++ after, IsPlain d := List.forall_mem_append.mpr ⟨x.clock.isPlain, plain⟩
  have trimmed : trimBlanks (x.text ++ after) = x.text ++ after := by
    refine trimBlanks_eq_self (fun d head => ?_) (fun d last => ?_)
    · rw [same] at head
      cases head
      exact not_isBlank_of_isDigit digit
    · obtain ⟨e, rest, hour, -⟩ := x.clock.hour.exists_cons
      have nonempty : x.clock.text ++ after ≠ [] := by simp [SpelledClock.text, hour]
      rw [append_text, List.append_cons, List.getLast?_append_of_ne_nil _ nonempty] at last
      exact (plain_end d (List.mem_of_getLast? last)).1
  have bar : '|' ∉ x.text ++ after := by
    rw [append_text, List.mem_append, List.mem_cons]
    rintro (early | separator | late)
    · exact (x.date.isPlain _ early).2 rfl
    · exact absurd (separator ▸ x.separator_known) (by decide)
    · exact (plain_end _ late).2 rfl
  have expression : trimBlanks (String.ofList (x.text ++ after)).toList = x.text ++ after := by
    rw [String.toList_ofList, trimmed]
  rw [resolve_eq_ok_iff, expression]
  · rwa [expression]
  · rw [expression, same]
    rintro math now
    cases now
    cases digit

theorem resolve_eq_ok_iff_shown : resolve (String.ofList x.text) now = .ok t ↔
    ∃ c, x.shown? = some c ∧ c.instant? 0 = some t := by
  have read := @resolve_eq_ok_iff_read? now t x [] (List.forall_mem_nil IsPlain)
  rw [List.append_nil] at read
  rw [read, read?_without_offset, Option.bind_eq_some_iff]

theorem resolve_offset_eq_ok_iff_shown : resolve (String.ofList (x.text ++ o.text)) now = .ok t ↔
    ∃ c, x.shown? = some c ∧ c.instant? o.seconds = some t := by
  rw [resolve_eq_ok_iff_read? x o.isPlain, read?_with_offset, Option.bind_eq_some_iff]

/-- There is an instant if there are such a date and such a time of day, and only then. An offset at the end changes
nothing about this, moves the instant back by as much, across any end of a day or a year, and leaves the nanoseconds
alone, those of a leap second too. The instant is the same one if the offset is none at all. -/
theorem resolve_offset (x : SpelledTime) (o : SpelledOffset) (now : Instant) :
    ((∃ t, resolve (String.ofList x.text) now = .ok t) ↔ ∃ c, x.shown? = some c ∧ c.Shown) ∧
    ((∃ u, resolve (String.ofList (x.text ++ o.text)) now = .ok u) ↔
      ∃ t, resolve (String.ofList x.text) now = .ok t) ∧
    (∀ t, resolve (String.ofList x.text) now = .ok t → ∀ u,
      resolve (String.ofList (x.text ++ o.text)) now = .ok u ↔
        u.seconds = t.seconds - o.seconds ∧ u.nanos = t.nanos) ∧
    (o.seconds = 0 → ∀ t, resolve (String.ofList (x.text ++ o.text)) now = .ok t ↔
      resolve (String.ofList x.text) now = .ok t) := by
  have exists_shown {offset : Int} (small : offset.natAbs < 86400 ∧ offset % 60 = 0) :
      (∃ t, ∃ c, x.shown? = some c ∧ c.instant? offset = some t) ↔ ∃ c, x.shown? = some c ∧ c.Shown := by
    rw [exists_comm]
    refine exists_congr fun c => ?_
    rw [exists_and_left]
    exact and_congr_right fun shown => ClockTime.exists_instant?_iff (year_of_shown? shown) (nanos_of_shown? shown) small
  have utc := exists_shown (show (0 : Int).natAbs < 86400 ∧ (0 : Int) % 60 = 0 by decide)
  simp only [resolve_eq_ok_iff_shown, resolve_offset_eq_ok_iff_shown]
  refine ⟨utc, (exists_shown o.seconds_small).trans utc.symm, ?_, fun zero t => by rw [zero]⟩
  rintro t ⟨c, shown, found⟩ u
  obtain ⟨possible, seconds, nanos⟩ := ClockTime.instant?_eq_some_iff.mp found
  have moved : c.instant? o.seconds = some u ↔ u.seconds = t.seconds - o.seconds ∧ u.nanos = t.nanos := by
    rw [ClockTime.instant?_eq_some_iff, seconds, nanos, Int.sub_zero]
    exact and_iff_right possible
  rw [← moved]
  constructor
  · rintro ⟨c', shown', ahead⟩
    cases shown.symm.trans shown'
    exact ahead
  · intro ahead
    exact ⟨c, shown, ahead⟩

/-- The leap second at the end of 2016, an hour into the next year by a clock that is ahead. -/
theorem resolve_offset_leap_second : ∃ (x : SpelledTime) (o : SpelledOffset) (t u : Instant),
    String.ofList x.text = "2017-01-01 00:59:60.12345678901" ∧ String.ofList o.text = "+01:00" ∧
    resolve (String.ofList x.text) epoch = .ok t ∧ t.date = ⟨2017, 1, 1⟩ ∧ t.clock = (3599, 1123456789) ∧
    resolve (String.ofList (x.text ++ o.text)) epoch = .ok u ∧ u.date = ⟨2016, 12, 31⟩ ∧
    u.clock = (86399, 1123456789) := by
  let x : SpelledTime :=
    ⟨⟨.ofText ['2', '0', '1', '7'] rfl, .ofText ['0', '1'] rfl, .ofText ['0', '1'] rfl⟩, false,
      ⟨.ofText ['0', '0'] rfl, .ofText ['5', '9'] rfl, .ofText ['6', '0'] rfl,
        some "12345678901".toList, by rintro _ ⟨⟩; exact List.all_eq_true.mp rfl⟩⟩
  let o : SpelledOffset := .signed .plus (.ofText ['0', '1'] rfl) (.ofText ['0', '0'] rfl) (by decide) (by decide)
  let t : Instant := ⟨1483232399, 1123456789, by decide, by decide, by decide, by decide⟩
  let u : Instant := ⟨1483228799, 1123456789, by decide, by decide, by decide, by decide⟩
  have found : resolve (String.ofList x.text) epoch = .ok t := by decide
  obtain ⟨-, -, moved, -⟩ := resolve_offset x o epoch
  exact ⟨x, o, t, u, by decide, by decide, found, by decide, by decide, (moved t found u).mpr ⟨rfl, rfl⟩, by decide,
    by decide⟩

end SpelledTime
end SpanSearch
