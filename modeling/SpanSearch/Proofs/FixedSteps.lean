import Mathlib.Algebra.Ring.Int.Defs
import Mathlib.Data.List.Infix
import SpanSearch.Proofs.MonthSteps

/-! Steps by units of fixed length, from weeks down to milliseconds, outside of leap seconds. Date math of such steps
    adds their exact total. It fails where a partial sum leaves the years of the calendar's range and nowhere else, so
    that steps of one total lead to one instant, and steps followed by their opposites lead back. -/

namespace SpanSearch
open List

/-! ### Exact addition -/

namespace Instant
variable {t u : Instant} {added : Int}

/-- This many nanoseconds after the start of 1970 it is a year of the calendar's range. -/
def InYears (stamp : Int) : Prop :=
  Date.firstYear ≤ (Date.ofDayNumber (stamp / (86400 * 10 ^ 9))).year ∧
    (Date.ofDayNumber (stamp / (86400 * 10 ^ 9))).year ≤ Date.lastYear

instance (stamp : Int) : Decidable (InYears stamp) :=
  inferInstanceAs (Decidable (_ ∧ _))

theorem inYears_iff {stamp : Int} :
    InYears stamp ↔ -8334601228800 * 10 ^ 9 ≤ stamp ∧ stamp < 8210266876800 * 10 ^ 9 := by
  have first_day : Date.daysBeforeYear Date.firstYear = -96465292 := by decide
  have last_day : Date.daysBeforeYear (Date.lastYear + 1) = 95026237 := by decide
  have first := @Date.le_yearOfDay_iff (stamp / (86400 * 10 ^ 9)) Date.firstYear
  have last := @Date.le_yearOfDay_iff (stamp / (86400 * 10 ^ 9)) (Date.lastYear + 1)
  simp only [InYears, Date.ofDayNumber]
  omega

theorem inYears_stamp (ordinary : t.Ordinary) : InYears t.stamp := by
  obtain ⟨least, below⟩ := t.seconds_bounds
  rw [inYears_iff]
  simp only [Ordinary, stamp] at *
  omega

theorem exists_of_inYears {stamp : Int} (within : InYears stamp) : ∃ t : Instant, t.Ordinary ∧ t.stamp = stamp := by
  rw [inYears_iff] at within
  obtain ⟨t, found⟩ := @exists_ofSum? 0 stamp 0 (by omega) (by omega)
  obtain ⟨ordinary, same⟩ := ofSum?_eq_some_iff.mp found
  exact ⟨t, ordinary, by omega⟩

theorem eq_of_stamp (ordinary : t.Ordinary) (ordinary' : u.Ordinary) (same : t.stamp = u.stamp) : t = u := by
  obtain ⟨seconds, nanos, _, _, _, _⟩ := t
  obtain ⟨seconds', nanos', _, _, _, _⟩ := u
  simp only [Ordinary, stamp] at ordinary ordinary' same
  have whole : seconds = seconds' := by omega
  have part : nanos = nanos' := by omega
  subst whole part
  rfl

theorem add?_eq_some_iff (ordinary : t.Ordinary) :
    t.add? added = some u ↔ u.Ordinary ∧ u.stamp = t.stamp + added := by
  rw [add?_of_ordinary ordinary, ofSum?_eq_some_iff, stamp, stamp]

theorem add?_eq_none_iff (ordinary : t.Ordinary) : t.add? added = none ↔ ¬InYears (t.stamp + added) := by
  constructor
  · intro none within
    obtain ⟨u, arrived⟩ := exists_of_inYears within
    rw [(add?_eq_some_iff ordinary).mpr arrived] at none
    cases none
  · intro outside
    cases found : t.add? added with
    | none => rfl
    | some u =>
      obtain ⟨ordinary', stamp⟩ := (add?_eq_some_iff ordinary).mp found
      exact absurd (stamp ▸ inYears_stamp ordinary') outside

/-- No two instants are as far apart as this. -/
theorem add?_of_far (ordinary : t.Ordinary) (far : 2 * 10 ^ 22 ≤ added.natAbs) : t.add? added = none := by
  rw [add?_eq_none_iff ordinary]
  have here := inYears_iff.mp (inYears_stamp ordinary)
  intro there
  rw [inYears_iff] at there
  omega

end Instant

/-! ### One step -/

namespace TimeUnit
variable {unit : TimeUnit} {n : Int}

theorem le_of_length (h : unit.length = .nanos n) : 10 ^ 6 ≤ n := by
  cases unit <;> cases h <;> decide

/-- The longest step rejects nothing that the calendar's range would not. -/
theorem add?_of_nanos {t : Instant} (h : unit.length = .nanos n) (ordinary : t.Ordinary) (amount : Int) :
    unit.add? t amount = t.add? (n * amount) := by
  rw [add?, h]
  simp only
  split
  · rfl
  · next long =>
    rw [Bool.and_eq_true, decide_eq_true_eq, decide_eq_true_eq, longestStep] at long
    exact (Instant.add?_of_far ordinary (by omega)).symm

end TimeUnit

/-- A sign, perhaps digits, and a unit that always has the same length. -/
structure FixedStep where
  negative : Bool
  digits : List Char
  digital : ∀ c ∈ digits, isDigit c
  name : UnitName
  unitNanos : Int
  fixed : name.unit.length = .nanos unitNanos

namespace FixedStep
open Instant
variable {t u : Instant} {start : Int} {s : FixedStep} {steps others : List FixedStep}

def term (s : FixedStep) : SpelledTerm :=
  ⟨.sign s.negative s.digits s.digital, s.name⟩

def nanos (s : FixedStep) : Int :=
  s.unitNanos * spelledAmount s.negative s.digits

def opposite (s : FixedStep) : FixedStep :=
  { s with negative := !s.negative }

@[simp] theorem nanos_opposite (s : FixedStep) : s.opposite.nanos = -s.nanos := by
  cases negative : s.negative <;> simp [nanos, opposite, spelledAmount, negative]

theorem natAbs_nanos (s : FixedStep) : s.nanos.natAbs = s.unitNanos.natAbs * TermLead.number s.digits := by
  cases negative : s.negative <;> simp [nanos, spelledAmount, negative, Int.natAbs_mul]

/-- A number that no word of 64 bits holds is too far as well. -/
theorem step?_eq (ordinary : t.Ordinary) (s : FixedStep) : s.term.step? t = t.add? s.nanos := by
  have step : s.term.step? t =
      if TermLead.number s.digits < 2 ^ 63 then s.name.unit.add? t (spelledAmount s.negative s.digits) else none :=
    rfl
  rw [step, TimeUnit.add?_of_nanos s.fixed ordinary]
  split
  · rfl
  · next large =>
    have length := TimeUnit.le_of_length s.fixed
    refine (add?_of_far ordinary ?_).symm
    rw [natAbs_nanos]
    calc 2 * 10 ^ 22 ≤ 10 ^ 6 * 2 ^ 63 := by decide
      _ ≤ s.unitNanos.natAbs * TermLead.number s.digits := Nat.mul_le_mul (by omega) (Nat.not_lt.mp large)

/-! ### Partial sums -/

def text (steps : List FixedStep) : List Char :=
  SpelledTerm.texts (steps.map term)

/-- The nanoseconds that steps move an instant by together. -/
def total : List FixedStep → Int
  | [] => 0
  | s :: rest => s.nanos + total rest

/-- The sums of all first steps, from none of them to all of them, stay in the calendar's range. -/
def Stays (start : Int) (steps : List FixedStep) : Prop :=
  ∀ first, first <+: steps → InYears (start + total first)

instance (start : Int) (steps : List FixedStep) : Decidable (Stays start steps) :=
  decidable_of_iff (∀ first ∈ steps.inits, InYears (start + total first)) (by simp [Stays])

@[simp] theorem total_nil : total [] = 0 :=
  rfl

@[simp] theorem total_cons (s : FixedStep) (steps : List FixedStep) : total (s :: steps) = s.nanos + total steps :=
  rfl

@[simp] theorem total_append (steps others : List FixedStep) :
    total (steps ++ others) = total steps + total others := by
  induction steps with
  | nil => simp
  | cons s rest ih => simp [ih, Int.add_assoc]

theorem total_perm (h : others ~ steps) : total others = total steps := by
  induction h with
  | nil => rfl
  | cons s h ih => rw [total_cons, total_cons, ih]
  | swap s s' rest => simp [Int.add_left_comm]
  | trans h h' ih ih' => rw [ih, ih']

@[simp] theorem total_opposites (steps : List FixedStep) : total (steps.map opposite) = -total steps := by
  induction steps with
  | nil => rfl
  | cons s rest ih => simp [ih, Int.add_comm]

@[simp] theorem stays_nil : Stays start [] ↔ InYears start := by
  simp [Stays]

@[simp] theorem stays_cons : Stays start (s :: steps) ↔ InYears start ∧ Stays (start + s.nanos) steps := by
  constructor
  · intro stays
    refine ⟨by simpa using stays [] ⟨_, rfl⟩, fun first h => ?_⟩
    have longer := stays (s :: first) ((prefix_cons_inj s).mpr h)
    rwa [total_cons, ← Int.add_assoc] at longer
  · rintro ⟨here, stays⟩ first h
    rcases prefix_cons_iff.mp h with rfl | ⟨rest, rfl, h⟩
    · simpa using here
    · rw [total_cons, ← Int.add_assoc]
      exact stays rest ((prefix_cons_inj s).mp h)

theorem stays_append : Stays start (steps ++ others) ↔ Stays start steps ∧ Stays (start + total steps) others := by
  induction steps generalizing start with
  | nil =>
    have here (stays : Stays start others) : InYears start := by simpa using stays [] ⟨_, rfl⟩
    simpa using here
  | cons s rest ih => simp [ih, and_assoc, Int.add_assoc]

/-- The steps back, the last one first, pass by the same instants. -/
theorem Stays.back (stays : Stays start steps) : Stays start (steps ++ (steps.map opposite).reverse) := by
  induction steps generalizing start with
  | nil => simpa using stays
  | cons s rest ih =>
    obtain ⟨here, later⟩ := stays_cons.mp stays
    have around := ih later
    have undone : total (rest.map opposite).reverse = -total rest := by
      rw [total_perm (reverse_perm _), total_opposites]
    rw [map_cons, reverse_cons, cons_append, ← append_assoc, stays_cons, stays_append]
    refine ⟨here, around, ?_⟩
    simpa [undone, here] using (stays_append.mp around).1 [] ⟨_, rfl⟩

/-! ### All steps -/

theorem steps?_eq_some_iff (ordinary : t.Ordinary) : SpelledTerm.steps? (steps.map term) t = some u ↔
    Stays t.stamp steps ∧ u.Ordinary ∧ u.stamp = t.stamp + total steps := by
  induction steps generalizing t with
  | nil =>
    have here := inYears_stamp ordinary
    simp only [map_nil, SpelledTerm.steps?, foldlM_nil, Option.pure_def, Option.some.injEq, stays_nil, here, true_and,
      total_nil, Int.add_zero]
    constructor
    · rintro rfl
      exact ⟨ordinary, rfl⟩
    · rintro ⟨ordinary', same⟩
      exact eq_of_stamp ordinary ordinary' same.symm
  | cons s rest ih =>
    have here := inYears_stamp ordinary
    rw [map_cons, SpelledTerm.steps?_cons, step?_eq ordinary, Option.bind_eq_some_iff, stays_cons, total_cons,
      ← Int.add_assoc]
    constructor
    · rintro ⟨v, first, later⟩
      obtain ⟨ordinary', stamp⟩ := (add?_eq_some_iff ordinary).mp first
      rw [ih ordinary', stamp] at later
      exact ⟨⟨here, later.1⟩, later.2⟩
    · rintro ⟨⟨-, stays⟩, arrived⟩
      have within : InYears (t.stamp + s.nanos) := by simpa using stays [] ⟨_, rfl⟩
      cases first : t.add? s.nanos with
      | none => exact absurd within ((add?_eq_none_iff ordinary).mp first)
      | some v =>
        obtain ⟨ordinary', stamp⟩ := (add?_eq_some_iff ordinary).mp first
        refine ⟨v, rfl, (ih ordinary').mpr ?_⟩
        rw [stamp]
        exact ⟨stays, arrived⟩

theorem applyMath_text_of_stays (ordinary : t.Ordinary) (stays : Stays t.stamp steps) (ordinary' : u.Ordinary)
    (arrived : u.stamp = t.stamp + total steps) : t.applyMath (text steps) = .ok u := by
  rw [text, SpelledTerm.applyMath_texts, (steps?_eq_some_iff ordinary).mpr ⟨stays, ordinary', arrived⟩]

theorem exists_applyMath_text (ordinary : t.Ordinary) (stays : Stays t.stamp steps) :
    ∃ u, t.applyMath (text steps) = .ok u ∧ u.Ordinary ∧ u.stamp = t.stamp + total steps := by
  obtain ⟨u, ordinary', arrived⟩ := exists_of_inYears (stays steps (prefix_refl steps))
  exact ⟨u, applyMath_text_of_stays ordinary stays ordinary' arrived, ordinary', arrived⟩

theorem applyMath_text_of_not_stays (ordinary : t.Ordinary) (strays : ¬Stays t.stamp steps) :
    t.applyMath (text steps) = .error .outOfRange := by
  rw [text, SpelledTerm.applyMath_texts]
  cases found : SpelledTerm.steps? (steps.map term) t with
  | none => rfl
  | some u => exact absurd ((steps?_eq_some_iff ordinary).mp found).1 strays

/-- Steps by units of fixed length, with numbers of any size, lead from an instant that is in no leap second to the
instant that is their exact total later if all partial sums stay in the calendar's range. They fail otherwise, and
only as out of range. So steps of the same total lead to the same instant, in particular the same steps in another
order, and the opposites of steps lead back, without leaving the range if they undo the last step first. -/
theorem applyMath_fixedSteps (ordinary : t.Ordinary) (steps : List FixedStep) :
    (∀ u, t.applyMath (text steps) = .ok u ↔
      Stays t.stamp steps ∧ u.Ordinary ∧ u.stamp = t.stamp + total steps) ∧
    (∀ e, t.applyMath (text steps) = .error e ↔ e = .outOfRange ∧ ¬Stays t.stamp steps) ∧
    (∀ others, total others = total steps ∨ others ~ steps → Stays t.stamp steps → Stays t.stamp others →
      t.applyMath (text others) = t.applyMath (text steps)) ∧
    (∀ back, back ~ steps.map opposite → Stays t.stamp (steps ++ back) → t.applyMath (text (steps ++ back)) = .ok t) ∧
    (Stays t.stamp steps → t.applyMath (text (steps ++ (steps.map opposite).reverse)) = .ok t) := by
  have returned {back} (same : back ~ steps.map opposite) (stays : Stays t.stamp (steps ++ back)) :
      t.applyMath (text (steps ++ back)) = .ok t := by
    refine applyMath_text_of_stays ordinary stays ordinary ?_
    rw [total_append, total_perm same, total_opposites, Int.add_right_neg, Int.add_zero]
  refine ⟨fun u => ⟨fun applied => ?_, ?_⟩, fun e => ?_, fun others same stays stays' => ?_, fun back => returned,
    fun stays => returned (reverse_perm _) stays.back⟩
  · by_cases stays : Stays t.stamp steps
    · obtain ⟨v, applied', arrived⟩ := exists_applyMath_text ordinary stays
      cases applied'.symm.trans applied
      exact ⟨stays, arrived⟩
    · cases (applyMath_text_of_not_stays ordinary stays).symm.trans applied
  · rintro ⟨stays, ordinary', arrived⟩
    exact applyMath_text_of_stays ordinary stays ordinary' arrived
  · by_cases stays : Stays t.stamp steps
    · obtain ⟨v, applied, -⟩ := exists_applyMath_text ordinary stays
      simp [applied, stays]
    · simp [applyMath_text_of_not_stays ordinary stays, stays, eq_comm]
  · obtain ⟨v, applied, ordinary', arrived⟩ := exists_applyMath_text ordinary stays
    have total_eq : total others = total steps := same.elim id total_perm
    rw [applied, applyMath_text_of_stays ordinary stays' ordinary' (total_eq ▸ arrived)]

/-- An hour before 1970, and a week on, eight days and 90 seconds back, half a second on. -/
theorem applyMath_fixedSteps_before_1970 : ∃ (t u : Instant) (steps : List FixedStep), t.Ordinary ∧
    t.date = ⟨1969, 12, 31⟩ ∧ t.clock = (82800, 750000000) ∧ text steps = "+w-8d-90s+500ms".toList ∧
    Stays t.stamp steps ∧ t.applyMath (text steps) = .ok u ∧ u.date = ⟨1969, 12, 30⟩ ∧ u.clock = (82711, 250000000) ∧
    t.applyMath (text (steps ++ (steps.map opposite).reverse)) = .ok t := by
  let t : Instant := ⟨-3600, 750000000, by decide, by decide, by decide, by decide⟩
  let u : Instant := ⟨-90089, 250000000, by decide, by decide, by decide, by decide⟩
  let steps : List FixedStep :=
    [⟨false, [], List.all_eq_true.mp rfl, ⟨['w'], .week, by decide⟩, _, rfl⟩,
      ⟨true, ['8'], List.all_eq_true.mp rfl, ⟨['d'], .day, by decide⟩, _, rfl⟩,
      ⟨true, ['9', '0'], List.all_eq_true.mp rfl, ⟨['s'], .second, by decide⟩, _, rfl⟩,
      ⟨false, ['5', '0', '0'], List.all_eq_true.mp rfl, ⟨['m', 's'], .millisecond, by decide⟩, _, rfl⟩]
  have ordinary : t.Ordinary := show 750000000 < 10 ^ 9 by decide
  have stays : Stays t.stamp steps := by decide
  obtain ⟨applied, -, -, -, back⟩ := applyMath_fixedSteps ordinary steps
  exact ⟨t, u, steps, ordinary, by decide, by decide, by decide, stays,
    (applied u).mpr ⟨stays, show 250000000 < 10 ^ 9 by decide, by decide⟩, by decide, by decide, back stays⟩

end FixedStep
end SpanSearch
