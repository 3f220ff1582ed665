import SpanSearch.Proofs.Calendar
import SpanSearch.Time.Instant

/-! Instants by their seconds and nanoseconds: their order, their dates, and where a step back and rounding down lead.
    Nanoseconds since 1970 count a leap second twice, once within it and once after it. -/

namespace SpanSearch

theorem fitsWord_iff {bits : Nat} {n : Int} : fitsWord bits n ↔ -2 ^ (bits - 1) ≤ n ∧ n < 2 ^ (bits - 1) := by
  simp only [fitsWord, Bool.and_eq_true, decide_eq_true_eq]

namespace Instant

/-- The instant is not in a leap second. -/
def Ordinary (t : Instant) : Prop :=
  t.nanos < 10 ^ 9

/-- The start of a day. -/
def AtMidnight (t : Instant) : Prop :=
  t.seconds % 86400 = 0 ∧ t.nanos = 0

/-- The time of day: the seconds since midnight and the nanoseconds, those of a leap second included. -/
def clock (t : Instant) : Int × Nat :=
  (t.seconds % 86400, t.nanos)

/-- The order of time, in which a leap second comes before the next second. -/
instance : LE Instant where
  le a b := a.seconds < b.seconds ∨ a.seconds = b.seconds ∧ a.nanos ≤ b.nanos

theorem le_iff {a b : Instant} : a ≤ b ↔ a.seconds < b.seconds ∨ a.seconds = b.seconds ∧ a.nanos ≤ b.nanos :=
  Iff.rfl

/-! ### Seconds and nanoseconds -/

section Parts
variable {t u : Instant} {seconds added : Int} {nanos : Nat}

theorem seconds_bounds (t : Instant) : -8334601228800 ≤ t.seconds ∧ t.seconds < 8210266876800 :=
  ⟨t.least, t.below⟩

theorem ofParts?_eq_some_iff : ofParts? seconds nanos = some t ↔ t.seconds = seconds ∧ t.nanos = nanos := by
  rw [ofParts?]
  constructor
  · intro h
    split at h
    · cases h
      exact ⟨rfl, rfl⟩
    · cases h
  · rintro ⟨rfl, rfl⟩
    rw [dif_pos ⟨t.least, t.below, t.nanos_lt, t.leap⟩]

theorem exists_ofParts? (least : -8334601228800 ≤ seconds) (below : seconds < 8210266876800)
    (nanos_lt : nanos < 2 * 10 ^ 9) (leap : 10 ^ 9 ≤ nanos → seconds % 60 = 59) :
    ∃ t, ofParts? seconds nanos = some t :=
  ⟨⟨seconds, nanos, least, below, nanos_lt, leap⟩, ofParts?_eq_some_iff.mpr ⟨rfl, rfl⟩⟩

theorem ofSum?_eq_some_iff :
    ofSum? seconds nanos added = some t ↔ t.Ordinary ∧ t.stamp = seconds * 10 ^ 9 + nanos + added := by
  simp only [ofSum?, ofParts?_eq_some_iff, Ordinary, stamp]
  omega

theorem exists_ofSum? (least : -8334601228800 * 10 ^ 9 ≤ seconds * 10 ^ 9 + nanos + added)
    (below : seconds * 10 ^ 9 + nanos + added < 8210266876800 * 10 ^ 9) : ∃ t, ofSum? seconds nanos added = some t :=
  exists_ofParts? (by omega) (by omega) (by omega) (by omega)

end Parts

/-! ### Dates -/

section Dates
variable {t : Instant} {d : Date}

theorem regular_date (t : Instant) : t.date.Regular :=
  Date.regular_ofDayNumber t.day

theorem dayNumber_date (t : Instant) : t.date.dayNumber = t.day :=
  Date.dayNumber_ofDayNumber t.day

theorem date_year (t : Instant) : Date.firstYear ≤ t.date.year ∧ t.date.year ≤ Date.lastYear := by
  obtain ⟨start, stop⟩ := Date.dayNumber_bounds t.regular_date
  rw [dayNumber_date] at start stop
  have least := t.least
  have below := t.below
  rw [day] at start stop
  refine ⟨Int.not_lt.mp fun before => ?_, Int.not_lt.mp fun after => ?_⟩
  · have := Date.daysBeforeYear_le (show t.date.year + 1 ≤ Date.firstYear from before)
    omega
  · have := Date.daysBeforeYear_le (show Date.lastYear + 1 ≤ t.date.year from after)
    omega

/-- A date of the range has instants at all times of day. -/
theorem exists_ofParts?_date {clock : Int} {nanos : Nat} (valid : d.isValid) (midnight : 0 ≤ clock)
    (below : clock < 86400) (nanos_lt : nanos < 2 * 10 ^ 9) (leap : 10 ^ 9 ≤ nanos → clock % 60 = 59) :
    ∃ t, ofParts? (86400 * d.dayNumber + clock) nanos = some t := by
  -- The bounds of the seconds are the first and the last day of the range, times the seconds of a day.
  obtain ⟨first, last, regular⟩ := Date.isValid_iff.mp valid
  obtain ⟨start, stop⟩ := Date.dayNumber_bounds regular
  have from_first := Date.daysBeforeYear_le first
  have to_last := Date.daysBeforeYear_le (show d.year + 1 ≤ Date.lastYear + 1 by omega)
  have first_day : Date.daysBeforeYear Date.firstYear = -96465292 := by decide
  have last_day : Date.daysBeforeYear (Date.lastYear + 1) = 95026237 := by decide
  exact exists_ofParts? (by omega) (by omega) nanos_lt (by omega)

/-- An instant is known by its date and its time of day. -/
theorem date_eq_iff (regular : d.Regular) : t.date = d ↔ t.day = d.dayNumber := by
  constructor
  · rintro rfl
    exact t.dayNumber_date.symm
  · intro same
    rw [date, same, Date.ofDayNumber_dayNumber regular]

theorem ofDate?_eq_some_iff (valid : d.isValid) : ofDate? d = some t ↔ t.AtMidnight ∧ t.date = d := by
  rw [ofDate?, if_pos valid, ofParts?_eq_some_iff, date_eq_iff (Date.isValid_iff.mp valid).2.2, AtMidnight, day]
  omega

theorem exists_ofDate? (valid : d.isValid) : ∃ t, ofDate? d = some t := by
  rw [ofDate?, if_pos valid, ← Int.add_zero (86400 * d.dayNumber)]
  exact exists_ofParts?_date valid (by decide) (by decide) (by decide) (by decide)

end Dates

/-! ### Steps back -/

section Steps
variable {t u : Instant} {back unit : Int}

theorem add?_of_ordinary (ordinary : t.Ordinary) (added : Int) :
    t.add? added = ofSum? t.seconds t.nanos added := by
  have outside : (!t.inLeapSecond) = true := by simpa [inLeapSecond, Ordinary] using ordinary
  rw [add?]
  simp only [outside, ↓reduceIte]

/-- The whole seconds of a step back, and what is left. -/
theorem seconds_of_back (nonneg : 0 ≤ back) :
    (-back).tdiv (10 ^ 9) = -(back / 10 ^ 9) ∧ (-back).tmod (10 ^ 9) = -(back % 10 ^ 9) := by
  rw [Int.neg_tdiv, Int.neg_tmod, Int.tdiv_eq_ediv_of_nonneg nonneg, Int.tmod_eq_emod_of_nonneg nonneg]
  exact ⟨rfl, rfl⟩

/-- A step back by less than a second from within a leap second stays in it, or goes on into the second that it
prolongs. -/
theorem add?_short (leap : 10 ^ 9 ≤ t.nanos) (nonneg : 0 ≤ back) (short : back < 10 ^ 9) :
    t.add? (-back) = ofParts? t.seconds (t.nanos - back).toNat := by
  have inside : (!t.inLeapSecond) = false := by simpa [inLeapSecond] using leap
  obtain ⟨whole, part⟩ := seconds_of_back nonneg
  have none : back / 10 ^ 9 = 0 := by omega
  have all : back % 10 ^ 9 = back := by omega
  have backward : ¬0 < -back := by omega
  rw [add?]
  simp only [inside, whole, part, none, all, backward, Bool.false_eq_true, ↓reduceIte, Int.neg_zero, Int.lt_irrefl,
    decide_false, Bool.false_and, Bool.or_self, ← Int.sub_eq_add_neg]

/-- A step back by a second or more from within a leap second starts from the second after it. -/
theorem add?_long (leap : 10 ^ 9 ≤ t.nanos) (long : 10 ^ 9 ≤ back) :
    t.add? (-back) = ofSum? (t.seconds + 1) (t.nanos - 10 ^ 9) (-back) := by
  have inside : (!t.inLeapSecond) = false := by simpa [inLeapSecond] using leap
  obtain ⟨whole, part⟩ := seconds_of_back (show 0 ≤ back by omega)
  have backward : -(back / 10 ^ 9) < 0 ∧ ¬0 < -(back / 10 ^ 9) ∧ ¬0 < -(back % 10 ^ 9) := by omega
  rw [add?]
  simp only [inside, whole, part, backward, Bool.false_eq_true, ↓reduceIte, decide_false, Bool.false_and, Bool.or_self]

@[simp] theorem add?_zero (t : Instant) : t.add? 0 = some t := by
  by_cases ordinary : t.Ordinary
  · rw [add?_of_ordinary ordinary, ofSum?_eq_some_iff, stamp, Int.add_zero]
    exact ⟨ordinary, rfl⟩
  · rw [← Int.neg_zero, add?_short (Nat.not_lt.mp ordinary) (by decide) (by decide), ofParts?_eq_some_iff]
    exact ⟨rfl, by omega⟩

/-- Nanoseconds since 1970 tell how far a step back goes, also from within a leap second. -/
theorem stamp_of_add? (nonneg : 0 ≤ back) (h : t.add? (-back) = some u) : u.stamp = t.stamp - back := by
  by_cases ordinary : t.Ordinary
  · rw [add?_of_ordinary ordinary, ofSum?_eq_some_iff] at h
    exact h.2
  -- A short step only moves the nanoseconds; a longer one counts a second on and 10⁹ nanoseconds off.
  have leap := Nat.not_lt.mp ordinary
  by_cases short : back < 10 ^ 9
  · rw [add?_short leap nonneg short, ofParts?_eq_some_iff] at h
    simp only [stamp]
    omega
  · rw [add?_long leap (Int.not_lt.mp short), ofSum?_eq_some_iff] at h
    rw [h.2, stamp]
    omega

theorem truncate?_eq (t : Instant) (unit : Int) :
    t.truncate? unit = if fitsWord 64 t.stamp then t.add? (-(t.stamp % unit)) else none := by
  rw [truncate?]
  by_cases rounded : t.stamp % unit = 0
  · simp [rounded]
  · simp [rounded]

theorem stamp_of_truncate? (positive : 0 < unit) (h : t.truncate? unit = some u) :
    u.stamp = t.stamp - t.stamp % unit := by
  rw [truncate?_eq] at h
  split at h
  · exact stamp_of_add? (Int.emod_nonneg _ (Int.ne_of_gt positive)) h
  · cases h

/-- Rounding down leaves alone what is rounded already. -/
theorem truncate?_of_dvd (h : t.truncate? unit = some u) (rounded : t.stamp % unit = 0) : u = t := by
  rw [truncate?_eq, rounded, Int.neg_zero, add?_zero] at h
  split at h
  · exact (Option.some.inj h).symm
  · cases h

end Steps

end Instant
end SpanSearch
