import Mathlib.Data.Int.Log
import Mathlib.Data.Rat.Floor
import Mathlib.Tactic.Linarith
import Mathlib.Tactic.NormNum
import SpanSearch.Axis

/-! The step of an axis in exact numbers: the least of the numbers 1, 2 and 5 times a power of ten that is not below
    the span divided by the number of steps. The span counted in its decade lies between 1 and 10, so that rounding it
    up to a whole number does not change how it compares with 1, 2 and 5. -/

namespace SpanSearch

/-- Exact numbers, with the power of ten taken by its exponent. -/
instance : AxisNumber ℚ where
  ofNat n := n
  add x y := x + y
  sub x y := x - y
  mul x y := x * y
  div x y := x / y
  less x y := decide (x < y)
  floor x := ⌊x⌋
  ceil x := ⌈x⌉
  decade x := (10 : ℚ) ^ Int.log 10 x
  isFinite _ := true

/-- 1, 2 or 5 times a power of ten. -/
def IsRound (s : ℚ) : Prop :=
  ∃ c : ℚ, (c = 1 ∨ c = 2 ∨ c = 5) ∧ ∃ k : ℤ, s = c * 10 ^ k

namespace Ticks
variable {x y : ℚ}

/-! ### The factor -/

theorem niceFactor_eq (x : ℚ) :
    niceFactor x = if 5 < x then 10 else if 2 < x then 5 else if 1 < x then 2 else 1 := by
  simp only [niceFactor, AxisNumber.less, AxisNumber.ofNat, decide_eq_true_eq]
  norm_num

theorem niceFactor_ceil (x : ℚ) : niceFactor (AxisNumber.ceil x) = niceFactor x := by
  have above (n : ℤ) : (n : ℚ) < (⌈x⌉ : ℚ) ↔ (n : ℚ) < x := by
    rw [Int.cast_lt, Int.lt_ceil]
  have five := above 5
  have two := above 2
  have one := above 1
  push_cast at five two one
  rw [niceFactor_eq, niceFactor_eq]
  simp only [AxisNumber.ceil, five, two, one]

/-- Up to 10 the factor is the least of 1, 2, 5 and 10 that is not below a number. -/
theorem isLeast_niceFactor (h : x ≤ 10) :
    IsLeast {c : ℚ | (c = 1 ∨ c = 2 ∨ c = 5 ∨ c = 10) ∧ x ≤ c} (niceFactor x) := by
  rw [niceFactor_eq]
  constructor
  · split
    · exact ⟨by simp, h⟩
    split
    · exact ⟨by simp, by linarith⟩
    split
    · exact ⟨by simp, by linarith⟩
    · exact ⟨by simp, by linarith⟩
  · rintro c ⟨rfl | rfl | rfl | rfl, least⟩
    all_goals
      split_ifs
      all_goals linarith

/-! ### The decade -/

theorem decade_pos (x : ℚ) : 0 < AxisNumber.decade x :=
  zpow_pos (by norm_num) _

/-- The decade of a positive number is the greatest power of ten that is not above it. -/
theorem isGreatest_decade (h : 0 < x) : IsGreatest {p : ℚ | (∃ k : ℤ, p = 10 ^ k) ∧ p ≤ x} (AxisNumber.decade x) := by
  constructor
  · refine ⟨⟨_, rfl⟩, ?_⟩
    have le := Int.zpow_log_le_self (b := 10) (by norm_num) h
    push_cast at le
    exact le
  · rintro _ ⟨⟨k, rfl⟩, below⟩
    have log := (Int.zpow_le_iff_le_log (b := 10) (by norm_num) h).mp (by push_cast; exact below)
    exact zpow_le_zpow_right₀ (by norm_num) log

theorem lt_ten_decades (h : 0 < x) : x < AxisNumber.decade x * 10 := by
  have positive := decade_pos x
  by_contra reaches
  have next : AxisNumber.decade x * 10 ≤ AxisNumber.decade x :=
    (isGreatest_decade h).2 ⟨⟨Int.log 10 x + 1, (zpow_add_one₀ (by norm_num) _).symm⟩, not_lt.mp reaches⟩
  linarith

/-- A power of ten, times 5 or less, that reaches a number is of its decade or of a later one. -/
theorem log_le_of_le {c : ℚ} {k : ℤ} (h : 0 < x) (small : c ≤ 5) (reaches : x ≤ c * 10 ^ k) : Int.log 10 x ≤ k := by
  have positive : (0 : ℚ) < 10 ^ k := zpow_pos (by norm_num) k
  have below : (10 : ℚ) ^ Int.log 10 x < 10 ^ (k + 1) := by
    refine lt_of_le_of_lt (isGreatest_decade h).1.2 ?_
    rw [zpow_add_one₀ (by norm_num)]
    nlinarith
  have log := (zpow_lt_zpow_iff_right₀ (by norm_num)).mp below
  omega

/-! ### The step -/

/-- The least round number from a positive number on, which is made of its decade and of the factor in it. -/
theorem isLeast_decade_mul (h : 0 < x) :
    IsLeast {s | IsRound s ∧ x ≤ s} (AxisNumber.decade x * niceFactor (x / AxisNumber.decade x)) := by
  have positive := decade_pos x
  have within : x / AxisNumber.decade x ≤ 10 := by
    rw [div_le_iff₀ positive, mul_comm]
    exact le_of_lt (lt_ten_decades h)
  obtain ⟨⟨factor, reaches⟩, least⟩ := isLeast_niceFactor within
  constructor
  · refine ⟨?_, by rwa [div_le_iff₀ positive, mul_comm] at reaches⟩
    rw [mul_comm]
    rcases factor with one | two | five | ten
    · exact ⟨_, .inl one, _, rfl⟩
    · exact ⟨_, .inr (.inl two), _, rfl⟩
    · exact ⟨_, .inr (.inr five), _, rfl⟩
    · -- Ten times a power of ten is the next one.
      refine ⟨1, .inl rfl, Int.log 10 x + 1, ?_⟩
      rw [ten, zpow_add_one₀ (by norm_num), one_mul, mul_comm]
      rfl
  · rintro s ⟨⟨c, factor, k, rfl⟩, above⟩
    have small : 0 < c ∧ c ≤ 5 := by
      rcases factor with rfl | rfl | rfl <;> norm_num
    rcases (log_le_of_le h small.2 above).eq_or_lt with same | later
    · have decade : AxisNumber.decade x = (10 : ℚ) ^ k := congrArg (fun k : ℤ => (10 : ℚ) ^ k) same
      rw [← decade] at above ⊢
      rw [mul_comm]
      refine mul_le_mul_of_nonneg_right (least ⟨?_, ?_⟩) (le_of_lt positive)
      · rcases factor with rfl | rfl | rfl <;> simp
      · rwa [div_le_iff₀ positive]
    · -- In a later decade even the power of ten alone is no less than ten times this one.
      have ten : niceFactor (x / AxisNumber.decade x) ≤ 10 := least ⟨by simp, within⟩
      calc AxisNumber.decade x * niceFactor (x / AxisNumber.decade x)
          ≤ AxisNumber.decade x * 10 := by gcongr
        _ = (10 : ℚ) ^ (Int.log 10 x + 1) := by rw [zpow_add_one₀ (by norm_num)]; rfl
        _ ≤ 10 ^ k := zpow_le_zpow_right₀ (by norm_num) later
        _ ≤ c * 10 ^ k := by
          refine le_mul_of_one_le_left (zpow_nonneg (by norm_num) k) ?_
          rcases factor with rfl | rfl | rfl <;> norm_num

variable {least greatest : ℚ}

/-- The step is the least round number of which `count` lead from one end to the other. -/
theorem isLeast_niceStep (h : least < greatest) (count : Nat) :
    IsLeast {s | IsRound s ∧ (greatest - least) / (max count 1 : ℕ) ≤ s} (niceStep least greatest count) := by
  have span : (0 : ℚ) < (greatest - least) / (max count 1 : ℕ) := by
    refine div_pos (sub_pos.mpr h) ?_
    exact_mod_cast Nat.le_max_right count 1
  have nice := isLeast_decade_mul span
  rw [← niceFactor_ceil] at nice
  exact nice

end Ticks
end SpanSearch
