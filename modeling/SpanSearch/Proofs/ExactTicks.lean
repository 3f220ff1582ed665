import Mathlib.Algebra.Order.Floor.Semiring
import Mathlib.Data.List.Chain
import Mathlib.Data.List.Perm.Subperm
import Mathlib.Data.List.Range
import SpanSearch.Proofs.ExactSteps

/-! Ticks of an axis in exact numbers. They are finitely many multiples of the step from the start on, and the last one
    is the first to reach the greatest number. Between the ends of the axis there are about as many as asked for. The
    start, however, is chosen from one below the least number, whatever the step is, so that there are more before the
    axis the shorter the step is. -/

namespace SpanSearch
namespace Ticks

/-! ### Whole sequences -/

section Lists
variable {α : Type} [AxisNumber α]

/-- The ticks are those of a list, however many of them are taken. -/
def Lists (ticks : Ticks α) (whole : List α) : Prop :=
  ∀ most, ticks.values most = whole.take most

@[simp] theorem upTo_none (ticks : Ticks α) (most : Nat) : ticks.upTo most none = [] := by
  cases most <;> rfl

end Lists

/-! ### The start -/

variable {least greatest step : ℚ}

theorem start_eq_max (least step : ℚ) : start least step = max 0 (⌊(least - 1) / step⌋ * step) := by
  rw [max_def_lt]
  simp only [start, AxisNumber.less, AxisNumber.mul, AxisNumber.floor, AxisNumber.div, AxisNumber.sub,
    AxisNumber.ofNat, decide_eq_true_eq, Nat.cast_zero, Nat.cast_one]

/-- The start is a multiple of the step. -/
theorem start_eq (h : 0 < step) (least : ℚ) : start least step = ⌊(least - 1) / step⌋₊ * step := by
  rw [start_eq_max]
  rcases le_total 0 ((least - 1) / step) with above | below
  · rw [natCast_floor_eq_intCast_floor above, max_eq_right]
    exact mul_nonneg (Int.cast_nonneg (Int.floor_nonneg.mpr above)) h.le
  · rw [Nat.floor_of_nonpos below, Nat.cast_zero, zero_mul, max_eq_left]
    refine mul_nonpos_of_nonpos_of_nonneg ?_ h.le
    exact (Int.floor_le _).trans below

theorem start_le (h : 0 < step) : start least step ≤ max (least - 1) 0 := by
  rw [start_eq h, le_max_iff]
  rcases le_total (least - 1) 0 with below | above
  · right
    rw [Nat.floor_of_nonpos (div_nonpos_of_nonpos_of_nonneg below h.le), Nat.cast_zero, zero_mul]
  · left
    rw [← le_div_iff₀ h]
    exact Nat.floor_le (div_nonneg above h.le)

theorem lt_start (h : 0 < step) : least - 1 - step < start least step := by
  have floor := Nat.lt_floor_add_one ((least - 1) / step)
  rw [div_lt_iff₀ h] at floor
  rw [start_eq h]
  linarith

theorem start_nonneg (h : 0 < step) : 0 ≤ start least step := by
  rw [start_eq h]
  positivity

/-! ### From the start to the limit -/

variable {ticks : Ticks ℚ}

theorem next?_eq (ticks : Ticks ℚ) (tick : ℚ) :
    ticks.next? tick = if tick < ticks.limit then some (tick + ticks.step) else none := by
  simp only [next?, AxisNumber.less, AxisNumber.add, decide_eq_true_eq]

/-- The number of steps after which the limit is reached. -/
def reach (ticks : Ticks ℚ) : ℕ :=
  ⌈(ticks.limit - ticks.first) / ticks.step⌉₊

/-- The tick after a number of steps. -/
def tickAt (ticks : Ticks ℚ) (i : ℕ) : ℚ :=
  ticks.first + i * ticks.step

/-- The ticks up to the one that reaches the limit. -/
def whole (ticks : Ticks ℚ) : List ℚ :=
  (List.range (ticks.reach + 1)).map ticks.tickAt

theorem tickAt_lt_limit_iff (h : 0 < ticks.step) {i : ℕ} : ticks.tickAt i < ticks.limit ↔ i < ticks.reach := by
  rw [reach, Nat.lt_ceil, lt_div_iff₀ h, tickAt]
  constructor <;> intro lt <;> linarith

@[simp] theorem tickAt_zero (ticks : Ticks ℚ) : ticks.tickAt 0 = ticks.first := by
  simp [tickAt]

theorem tickAt_succ (ticks : Ticks ℚ) (i : ℕ) : ticks.tickAt (i + 1) = ticks.tickAt i + ticks.step := by
  rw [tickAt, tickAt]
  push_cast
  ring

theorem upTo_tickAt (h : 0 < ticks.step) : ∀ (most n i : ℕ), i + n = ticks.reach →
    ticks.upTo most (some (ticks.tickAt i)) = ((List.range' i (n + 1)).map ticks.tickAt).take most
  | 0, n, i, _ => rfl
  | most + 1, n, i, steps => by
    rw [upTo, next?_eq, List.range'_succ, List.map_cons, List.take_succ_cons]
    cases n with
    | zero =>
      have ends : ¬ticks.tickAt i < ticks.limit := by
        rw [tickAt_lt_limit_iff h]
        omega
      rw [if_neg ends, upTo_none]
      simp
    | succ n =>
      have goes : ticks.tickAt i < ticks.limit := by
        rw [tickAt_lt_limit_iff h]
        omega
      rw [if_pos goes, ← tickAt_succ, upTo_tickAt h most n (i + 1) (by omega)]

theorem lists_whole (h : 0 < ticks.step) : ticks.Lists ticks.whole := by
  intro most
  rw [values, ← tickAt_zero, upTo_tickAt h most ticks.reach 0 (by omega), whole, List.range_eq_range']

theorem whole_eq_concat (ticks : Ticks ℚ) :
    ticks.whole = (List.range ticks.reach).map ticks.tickAt ++ [ticks.tickAt ticks.reach] := by
  rw [whole, List.range_succ, List.map_append, List.map_singleton]

theorem head?_whole (ticks : Ticks ℚ) : ticks.whole.head? = some ticks.first := by
  rw [whole, List.range_succ_eq_map, List.map_cons, List.head?_cons, tickAt_zero]

theorem limit_le_last (h : 0 < ticks.step) : ticks.limit ≤ ticks.tickAt ticks.reach := by
  rw [← not_lt, tickAt_lt_limit_iff h]
  exact lt_irrefl _

theorem last_lt (h : 0 < ticks.step) (starts : ticks.first < ticks.limit) :
    ticks.tickAt ticks.reach < ticks.limit + ticks.step := by
  rw [← tickAt_zero, tickAt_lt_limit_iff h] at starts
  obtain ⟨n, steps⟩ : ∃ n, ticks.reach = n + 1 := Nat.exists_eq_succ_of_ne_zero starts.ne'
  have before : ticks.tickAt n < ticks.limit := by
    rw [tickAt_lt_limit_iff h]
    omega
  rw [steps, tickAt_succ]
  linarith

/-- From a multiple of the step on all ticks are multiples of it. -/
theorem exists_multiple {k : ℕ} (starts : ticks.first = k * ticks.step) {v : ℚ} (hv : v ∈ ticks.whole) :
    ∃ k : ℕ, v = k * ticks.step := by
  obtain ⟨i, -, rfl⟩ := List.mem_map.mp hv
  refine ⟨k + i, ?_⟩
  rw [tickAt, starts]
  push_cast
  ring

theorem isChain_whole (ticks : Ticks ℚ) : ticks.whole.IsChain fun v w => w = v + ticks.step := by
  rw [whole, List.isChain_map]
  exact (List.isChain_range_succ _ _).mpr fun i _ => ticks.tickAt_succ i

/-- At most `n + 1` ticks lie between two numbers that are at most `n` steps apart. -/
theorem length_filter_whole_le (h : 0 < ticks.step) {n : ℕ} (near : greatest - least ≤ n * ticks.step) :
    (ticks.whole.filter fun v => least ≤ v ∧ v ≤ greatest).length ≤ n + 1 := by
  let first : ℕ := ⌈(least - ticks.first) / ticks.step⌉₊
  have within : ∀ i ∈ (List.range (ticks.reach + 1)).filter fun i => least ≤ ticks.tickAt i ∧ ticks.tickAt i ≤ greatest,
      i ∈ List.range' first (n + 1) := by
    intro i hi
    obtain ⟨above, below⟩ : least ≤ ticks.tickAt i ∧ ticks.tickAt i ≤ greatest := by
      simpa using (List.mem_filter.mp hi).2
    rw [tickAt] at above below
    have ceil : least - ticks.first ≤ first * ticks.step := (div_le_iff₀ h).mp (Nat.le_ceil _)
    have from_first : first ≤ i := Nat.ceil_le.mpr ((div_le_iff₀ h).mpr (by linarith))
    have to_last : i ≤ first + n := by
      have steps : (i : ℚ) * ticks.step ≤ (first + n : ℕ) * ticks.step := by
        push_cast
        linarith
      exact_mod_cast le_of_mul_le_mul_right steps h
    rw [List.mem_range'_1]
    omega
  calc (ticks.whole.filter fun v => least ≤ v ∧ v ≤ greatest).length
      = ((List.range (ticks.reach + 1)).filter fun i => least ≤ ticks.tickAt i ∧ ticks.tickAt i ≤ greatest).length := by
        rw [whole, List.filter_map, List.length_map]
        rfl
    _ ≤ (List.range' first (n + 1)).length := (List.subperm_of_subset (List.nodup_range.filter _) within).length_le
    _ = n + 1 := List.length_range'

/-! ### The ticks of an axis -/

section Between
variable (h : least < greatest) (count : ℕ)
include h

theorem niceStep_pos : 0 < niceStep least greatest count := by
  refine lt_of_lt_of_le (div_pos (sub_pos.mpr h) ?_) (isLeast_niceStep h count).1.2
  exact_mod_cast Nat.le_max_right count 1

theorem between_eq : between least greatest count =
    ⟨start least (niceStep least greatest count), niceStep least greatest count, greatest⟩ := by
  have positive := niceStep_pos h count
  simp only [between, AxisNumber.less, AxisNumber.isFinite, AxisNumber.ofNat, Nat.cast_zero, h, positive, decide_true,
    Bool.and_self, if_true]

/-- The asked number of steps covers the axis. -/
theorem span_le : greatest - least ≤ (max count 1 : ℕ) * niceStep least greatest count := by
  have reaches := (isLeast_niceStep h count).1.2
  rwa [div_le_iff₀' (by exact_mod_cast Nat.le_max_right count 1)] at reaches

end Between

/-- The step of an axis is the least round number that is not below the span divided by the asked number of steps. Its
ticks are finitely many multiples of the step, each a step after the one before, and only the last one reaches the
greatest number, by less than a step if that is positive. If the least number is not negative, the first tick is not
above it. At most one tick more than the asked number of steps lies on the axis. -/
theorem between_exact {least greatest : ℚ} (h : least < greatest) (count : ℕ) :
    let ticks := between least greatest count
    IsLeast {s | IsRound s ∧ (greatest - least) / (max count 1 : ℕ) ≤ s} ticks.step ∧
    ∃ (before : List ℚ) (last : ℚ), ticks.Lists (before ++ [last]) ∧
      (∀ v ∈ before ++ [last], ∃ k : ℕ, v = k * ticks.step) ∧
      (before ++ [last]).IsChain (fun v w => w = v + ticks.step) ∧
      (∀ v ∈ before, v < greatest) ∧ greatest ≤ last ∧
      (0 < greatest → last < greatest + ticks.step) ∧
      (0 ≤ least → ∃ v ∈ (before ++ [last]).head?, v ≤ least) ∧
      ((before ++ [last]).filter fun v => least ≤ v ∧ v ≤ greatest).length ≤ max count 1 + 1 := by
  have least_step := isLeast_niceStep h count
  have positive := niceStep_pos h count
  have span := span_le h count
  rw [between_eq h count]
  generalize niceStep least greatest count = step at *
  intro ticks
  have starts : ticks.first ≤ max (least - 1) 0 := start_le positive
  have listed := @lists_whole ticks positive
  have multiples : ∀ v ∈ ticks.whole, ∃ k : ℕ, v = k * step := fun v => exists_multiple (start_eq positive least)
  have chain := ticks.isChain_whole
  have head := ticks.head?_whole
  have dense := @length_filter_whole_le _ _ ticks positive _ span
  rw [whole_eq_concat] at listed multiples chain head dense
  refine ⟨least_step, _, _, listed, multiples, chain, ?_, limit_le_last positive, ?_, ?_, dense⟩
  · intro v hv
    obtain ⟨i, hi, rfl⟩ := List.mem_map.mp hv
    exact (tickAt_lt_limit_iff positive).mpr (List.mem_range.mp hi)
  · intro above
    exact last_lt positive (starts.trans_lt (max_lt (by linarith) above))
  · intro nonneg
    exact ⟨_, head, starts.trans (max_le (by linarith) nonneg)⟩

/-- An axis for latencies: its ticks start below it and end with it. -/
theorem between_exact_of_latencies : ∃ (before : List ℚ) (last : ℚ),
    (between (1250 : ℚ) 1800 4).Lists (before ++ [last]) ∧
    (between (1250 : ℚ) 1800 4).values 4 = [1200, 1400, 1600, 1800] ∧
    IsLeast {s | IsRound s ∧ (1800 - 1250) / (max 4 1 : ℕ) ≤ s} (200 : ℚ) ∧
    ((before ++ [last]).filter fun v => 1250 ≤ v ∧ v ≤ 1800).length ≤ 5 := by
  obtain ⟨least_step, before, last, listed, -, -, -, -, -, -, dense⟩ :=
    @between_exact 1250 1800 (by norm_num) 4
  have step : (between (1250 : ℚ) 1800 4).step = 200 := by decide +kernel
  exact ⟨before, last, listed, by decide +kernel, step ▸ least_step, dense⟩

/-! ### How many ticks there are -/

theorem length_whole_le_iff (h : 0 < ticks.step) (n : ℕ) :
    ticks.whole.length ≤ n + 1 ↔ ticks.limit ≤ ticks.tickAt n := by
  rw [whole, List.length_map, List.length_range, Nat.add_le_add_iff_right, ← not_lt, ← tickAt_lt_limit_iff h, not_lt]

/-- The ticks lead from no more than one and a step below the least number to the greatest number, and from one or more
below the least number if that leaves room above zero. They are about as many as asked for if the step is no shorter
than one or the ticks start from zero on the axis, and in general just if the asked number of steps and two more lead to
the greatest number. -/
theorem length_between_bounds {least greatest : ℚ} {count : ℕ} (h : least < greatest) (asked : 1 ≤ count) :
    let ticks := between least greatest count
    ∃ whole, ticks.Lists whole ∧
      (whole.length ≤ count + 3 ↔ greatest ≤ ticks.first + (count + 2) * ticks.step) ∧
      (1 ≤ ticks.step ∨ least ≤ 0 → whole.length ≤ count + 3) ∧
      whole.length ≤ ⌈(greatest - least + 1) / ticks.step⌉₊ + 2 ∧
      (1 ≤ least → ⌈(greatest - least + 1) / ticks.step⌉₊ + 1 ≤ whole.length) := by
  have positive := niceStep_pos h count
  have span := span_le h count
  rw [between_eq h count, max_eq_left asked] at *
  generalize niceStep least greatest count = step at *
  intro ticks
  have low : least - 1 - step < ticks.first := lt_start positive
  have ends (n : ℕ) : ticks.whole.length ≤ n + 1 ↔ greatest ≤ ticks.first + n * step :=
    @length_whole_le_iff ticks positive n
  have ceil : greatest - least + 1 ≤ ⌈(greatest - least + 1) / step⌉₊ * step :=
    (div_le_iff₀ positive).mp (Nat.le_ceil _)
  have asked_steps := ends (count + 2)
  push_cast at asked_steps
  refine ⟨ticks.whole, lists_whole positive, asked_steps, fun few => asked_steps.mpr ?_, ?_, fun room => ?_⟩
  · rcases few with long | left
    · linarith
    · have nonneg : 0 ≤ ticks.first := start_nonneg positive
      linarith
  · rw [ends]
    push_cast
    linarith
  · have high : ticks.first ≤ least - 1 := (start_le positive).trans (max_le le_rfl (by linarith))
    have arrives : greatest ≤ ticks.tickAt ticks.reach := limit_le_last positive
    have steps : ⌈(greatest - least + 1) / step⌉₊ ≤ ticks.reach := by
      rw [Nat.ceil_le, div_le_iff₀ positive]
      rw [tickAt] at arrives
      linarith
    rw [whole, List.length_map, List.length_range]
    exact Nat.add_le_add_right steps 1

/-- An axis of length one half far from zero, and its ten steps too many. -/
theorem length_between_bounds_of_thousand : ∃ whole, (between (1000 : ℚ) (2001 / 2) 5).Lists whole ∧
    (between (1000 : ℚ) (2001 / 2) 5).step = 1 / 10 ∧ whole.length ≤ 17 ∧ 16 ≤ whole.length := by
  obtain ⟨whole, listed, -, -, most, fewest⟩ :=
    @length_between_bounds 1000 (2001 / 2) 5 (by norm_num) (by norm_num)
  have step : (between (1000 : ℚ) (2001 / 2) 5).step = 1 / 10 := by decide +kernel
  have ceil : ⌈(2001 / 2 - 1000 + 1) / (1 / 10 : ℚ)⌉₊ = 15 := by norm_num
  rw [step, ceil] at most fewest
  exact ⟨whole, listed, step, most, fewest (by norm_num)⟩

/-- The ticks of that axis are not about as many as asked for. -/
theorem not_length_between_le : ¬∀ (least greatest : ℚ) (count : ℕ), least < greatest → 1 ≤ count →
    ∃ whole, (between least greatest count).Lists whole ∧ whole.length ≤ count + 3 := by
  intro few
  obtain ⟨whole, listed, short⟩ := few 1000 (2001 / 2) 5 (by norm_num) (by norm_num)
  have taken : ((between (1000 : ℚ) (2001 / 2) 5).values 9).length = 9 := by decide +kernel
  rw [listed 9, List.length_take] at taken
  omega

end Ticks
end SpanSearch
