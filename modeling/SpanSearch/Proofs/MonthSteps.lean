import SpanSearch.Proofs.DateMath
import SpanSearch.Proofs.Instants

/-! Steps by months and years. The month is counted on exactly, the day is kept or is the last of a shorter month, and
    the time of day is kept. No limit of the words that the steps are computed with rejects an instant in range. -/

namespace SpanSearch

/-! ### Months of dates -/

namespace Date
variable {d : Date}

theorem monthIndex_addMonths (d : Date) (months : Int) : (d.addMonths months).monthIndex = d.monthIndex + months := by
  simp only [addMonths, monthIndex]
  omega

theorem regular_addMonths (regular : d.Regular) (months : Int) : (d.addMonths months).Regular := by
  have positive := regular.one_le_day
  refine ⟨Nat.le_min.mpr ⟨positive, one_le_daysInMonth (Nat.succ_pos _) ?_⟩, Nat.min_le_right _ _⟩
  omega

/-- The date is the one in its month whose day is next to the day stepped from. -/
theorem eq_addMonths_iff (regular : d.Regular) {e : Date} (he : e.Regular) (months : Int) :
    e = d.addMonths months ↔
      e.monthIndex = d.monthIndex + months ∧ e.day = min d.day (daysInMonth e.year e.month) := by
  constructor
  · rintro rfl
    exact ⟨monthIndex_addMonths d months, rfl⟩
  · rintro ⟨index, day⟩
    rw [← monthIndex_addMonths] at index
    obtain ⟨year, month⟩ := monthIndex_inj he (regular_addMonths regular months) index
    rw [year, month] at day
    cases e
    cases year
    cases month
    cases day
    rfl

theorem isValid_iff_monthIndex (regular : d.Regular) :
    d.isValid ↔ 12 * firstYear + 1 ≤ d.monthIndex ∧ d.monthIndex ≤ 12 * lastYear + 12 := by
  have first := regular.one_le_month
  have last := regular.month_le
  simp only [isValid_iff, regular, and_true, monthIndex]
  omega

end Date

/-! ### Months of instants -/

namespace Instant
variable {t u : Instant} {months : Int}

/-- Every instant lies in a month of the range. -/
theorem monthIndex_bounds (t : Instant) :
    12 * Date.firstYear + 1 ≤ t.date.monthIndex ∧ t.date.monthIndex ≤ 12 * Date.lastYear + 12 :=
  (Date.isValid_iff_monthIndex t.regular_date).mp (Date.isValid_iff.mpr ⟨t.date_year.1, t.date_year.2, t.regular_date⟩)

/-- The 32-bit words that months are counted with hold every number of months between two instants. -/
theorem words_of_monthIndex (t : Instant) (first : 12 * Date.firstYear + 1 ≤ t.date.monthIndex + months)
    (last : t.date.monthIndex + months ≤ 12 * Date.lastYear + 12) :
    months.natAbs < 2 ^ 31 ∧ fitsWord 32 (12 * t.date.year + (t.date.month - 1) + months) := by
  have here := t.monthIndex_bounds
  simp only [fitsWord_iff, Date.monthIndex, Date.firstYear, Date.lastYear] at *
  omega

theorem addMonths?_eq (t : Instant) (months : Int) : t.addMonths? months =
    if (t.date.addMonths months).isValid then
      ofParts? (86400 * (t.date.addMonths months).dayNumber + t.seconds % 86400) t.nanos
    else none := by
  rw [addMonths?]
  split
  · rfl
  · next large =>
    refine (if_neg fun valid => large ?_).symm
    rw [Date.isValid_iff_monthIndex (Date.regular_addMonths t.regular_date months), Date.monthIndex_addMonths] at valid
    obtain ⟨amount, reached⟩ := t.words_of_monthIndex valid.1 valid.2
    rw [Bool.and_eq_true, decide_eq_true_eq]
    exact ⟨amount, reached⟩

theorem addMonths?_eq_some_iff : t.addMonths? months = some u ↔
    u.date.monthIndex = t.date.monthIndex + months ∧
      u.date.day = min t.date.day (Date.daysInMonth u.date.year u.date.month) ∧ u.clock = t.clock := by
  have regular := Date.regular_addMonths t.regular_date months
  rw [addMonths?_eq, ← and_assoc, ← Date.eq_addMonths_iff t.regular_date u.regular_date, date_eq_iff regular]
  simp only [clock, Prod.mk.injEq, day]
  constructor
  · intro h
    split at h
    · rw [ofParts?_eq_some_iff] at h
      omega
    · cases h
  · rintro ⟨same, clock, nanos⟩
    have valid : (t.date.addMonths months).isValid := by
      rw [← (date_eq_iff regular).mpr same]
      exact Date.isValid_iff.mpr ⟨u.date_year.1, u.date_year.2, u.regular_date⟩
    rw [if_pos valid, ofParts?_eq_some_iff]
    omega

theorem addMonths?_eq_none_iff : t.addMonths? months = none ↔
    ¬(12 * Date.firstYear + 1 ≤ t.date.monthIndex + months ∧
      t.date.monthIndex + months ≤ 12 * Date.lastYear + 12) := by
  rw [← Date.monthIndex_addMonths, ← Date.isValid_iff_monthIndex (Date.regular_addMonths t.regular_date months),
    addMonths?_eq]
  split
  · next valid =>
    have minute := t.leap
    obtain ⟨u, found⟩ := exists_ofParts?_date valid (show 0 ≤ t.seconds % 86400 by omega) (by omega) t.nanos_lt
      (by omega)
    exact iff_of_false (by simp [found]) fun outside => outside valid
  · next outside => exact iff_of_true rfl outside

end Instant

/-! ### Steps of date math -/

/-- The 64-bit word that counts the months of a step and the 32-bit word of their magnitude reject nothing that
months could be added for. -/
theorem TimeUnit.add?_of_months {unit : TimeUnit} {n : Int} (h : unit.length = .months n) (t : Instant) (amount : Int) :
    unit.add? t amount = t.addMonths? (n * amount) := by
  rw [add?, h]
  simp only
  split
  · rfl
  · next large =>
    refine (Instant.addMonths?_eq_none_iff.mpr fun ⟨first, last⟩ => large ?_).symm
    have magnitude := (t.words_of_monthIndex first last).1
    rw [Bool.and_eq_true, decide_eq_true_eq, fitsWord_iff]
    omega

namespace SpelledTerm

/-- Date math of a single term. -/
theorem applyMath_text (s : SpelledTerm) (t : Instant) : t.applyMath s.text =
    match s.step? t with
    | some u => .ok u
    | none => .error .outOfRange := by
  have applied := applyMath_texts [s] t
  rw [texts_cons, texts, List.flatMap_nil, List.append_nil, steps?_cons] at applied
  rw [applied]
  cases s.step? t <;> rfl

end SpelledTerm

namespace Instant

/-- A sign, digits and a unit. -/
def spelledStep (negative : Bool) (digits : List Char) (letter : Char) : List Char :=
  (if negative then '-' else '+') :: digits ++ [letter]

/-- The number of units that a sign and digits tell; without digits it is one. -/
def spelledAmount (negative : Bool) (digits : List Char) : Int :=
  (if negative then -1 else 1) * TermLead.number digits

section Spelled
variable {negative : Bool} {digits digits' : List Char}

theorem applyMath_spelledStep (digital : ∀ c ∈ digits, isDigit c) {letter : Char} {unit : TimeUnit} {n : Int}
    (known : ([letter], unit) ∈ unitNames) (months : unit.length = .months n) (t : Instant) :
    t.applyMath (spelledStep negative digits letter) =
      match t.addMonths? (n * spelledAmount negative digits) with
      | some u => .ok u
      | none => .error .outOfRange := by
  have applied := SpelledTerm.applyMath_text ⟨.sign negative digits digital, ⟨[letter], unit, known⟩⟩ t
  rw [SpelledTerm.step?] at applied
  simp only [TimeUnit.add?_of_months months] at applied
  by_cases fits : TermLead.number digits < 2 ^ 63
  · rw [if_pos fits] at applied
    exact applied
  · rw [if_neg fits] at applied
    -- More months than 63 bits count lead out of the range in any case.
    have unit_pos : 1 ≤ n := by cases unit <;> cases months <;> decide
    have magnitude : TermLead.number digits ≤ (n * spelledAmount negative digits).natAbs := by
      rw [spelledAmount, Int.natAbs_mul, Int.natAbs_mul, Int.natAbs_natCast, ← Nat.mul_assoc]
      refine Nat.le_mul_of_pos_left _ (Nat.mul_pos (by omega) ?_)
      cases negative <;> decide
    have none : t.addMonths? (n * spelledAmount negative digits) = none := by
      rw [addMonths?, if_neg]
      simp only [Bool.and_eq_true, decide_eq_true_eq]
      omega
    rw [none]
    exact applied

/-- Adding months counts the month on exactly, keeps the day or takes the last one of the month, and keeps the time of
day. It fails only as out of range, and only if the month lies outside the years of the calendar's range. Adding
years is adding twelve times as many months, also where either fails. -/
theorem applyMath_months (t : Instant) (digital : ∀ c ∈ digits, isDigit c) (digital' : ∀ c ∈ digits', isDigit c)
    (twelvefold : TermLead.number digits' = 12 * TermLead.number digits) :
    (∀ u, t.applyMath (spelledStep negative digits 'M') = .ok u ↔
      u.date.monthIndex = t.date.monthIndex + spelledAmount negative digits ∧
        u.date.day = min t.date.day (Date.daysInMonth u.date.year u.date.month) ∧ u.clock = t.clock) ∧
    (∀ e, t.applyMath (spelledStep negative digits 'M') = .error e ↔ e = .outOfRange ∧
      ¬(12 * Date.firstYear + 1 ≤ t.date.monthIndex + spelledAmount negative digits ∧
        t.date.monthIndex + spelledAmount negative digits ≤ 12 * Date.lastYear + 12)) ∧
    t.applyMath (spelledStep negative digits 'y') = t.applyMath (spelledStep negative digits' 'M') := by
  have step (ds : List Char) (digital : ∀ c ∈ ds, isDigit c) :=
    @applyMath_spelledStep negative ds digital 'M' .month 1 (by decide) rfl t
  have years := @applyMath_spelledStep negative digits digital 'y' .year 12 (by decide) rfl t
  have same : spelledAmount negative digits' = 12 * spelledAmount negative digits := by
    rw [spelledAmount, spelledAmount, twelvefold]
    push_cast
    rw [Int.mul_left_comm]
  simp only [Int.one_mul] at step
  refine ⟨fun u => ?_, fun e => ?_, ?_⟩
  · rw [step digits digital, ← addMonths?_eq_some_iff]
    cases t.addMonths? (spelledAmount negative digits) <;> simp
  · rw [step digits digital, ← addMonths?_eq_none_iff]
    cases t.addMonths? (spelledAmount negative digits) <;> simp [eq_comm]
  · rw [years, step digits' digital', same]

end Spelled

/-- A month after the leap second at the end of January 31st 2020 is the one at the end of February 29th. -/
theorem applyMath_months_leap_day : ∃ t u : Instant, t.date = ⟨2020, 1, 31⟩ ∧ t.clock = (86399, 10 ^ 9) ∧
    t.applyMath (spelledStep false ['1'] 'M') = .ok u ∧ u.date = ⟨2020, 2, 29⟩ ∧ u.clock = (86399, 10 ^ 9) ∧
    t.applyMath (spelledStep false ['1'] 'y') = t.applyMath (spelledStep false ['1', '2'] 'M') := by
  let january : Instant := ⟨1580515199, 10 ^ 9, by decide, by decide, by decide, by decide⟩
  let february : Instant := ⟨1583020799, 10 ^ 9, by decide, by decide, by decide, by decide⟩
  obtain ⟨later, -, years⟩ := @applyMath_months false ['1'] ['1', '2'] january (List.all_eq_true.mp rfl)
    (List.all_eq_true.mp rfl) rfl
  exact ⟨january, february, by decide, by decide, (later february).mpr ⟨by decide, by decide, by decide⟩, by decide,
    by decide, years⟩

end Instant
end SpanSearch
