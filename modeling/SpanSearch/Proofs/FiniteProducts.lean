import SpanSearch.Units

/-! Where rounding to binary64 stays finite. A quotient is nearest to a finite number just if it is less than halfway
    from the greatest finite number to the power of two after it, since halfway the even neighbour is that power. A
    percentile in milliseconds therefore has finite nanoseconds only up to a millionth of that. -/

namespace SpanSearch

/-! ### Rounding half to even -/

theorem roundHalfEven_cases (num den : Nat) :
    (roundHalfEven num den = num / den ∧
      (2 * (num % den) < den ∨ 2 * (num % den) = den ∧ num / den % 2 = 0)) ∨
    (roundHalfEven num den = num / den + 1 ∧
      (den < 2 * (num % den) ∨ 2 * (num % den) = den ∧ num / den % 2 = 1)) := by
  simp only [roundHalfEven, Bool.or_eq_true, Bool.and_eq_true, decide_eq_true_eq, beq_iff_eq]
  split
  · exact .inl ⟨rfl, ‹_›⟩
  · exact .inr ⟨rfl, by omega⟩

/-- The rounded quotient is below an even number just if the quotient is less than halfway from the number before. -/
theorem roundHalfEven_lt_iff {num den m : Nat} (positive : 0 < den) (even : m % 2 = 0) :
    roundHalfEven num den < m ↔ 2 * num + den < 2 * (m * den) := by
  have parts : num / den * den + num % den = num := Nat.div_add_mod' num den
  have less := Nat.mod_lt num positive
  have rounded := roundHalfEven_cases num den
  generalize num / den = quotient at *
  generalize num % den = rest at *
  generalize roundHalfEven num den = r at *
  -- The quotient and the number compare as whole numbers of denominators.
  have compare : quotient + 2 ≤ m ∧ quotient * den + 2 * den ≤ m * den ∨
      quotient + 1 = m ∧ quotient * den + den = m * den ∨ m ≤ quotient ∧ m * den ≤ quotient * den := by
    rcases Nat.lt_trichotomy (quotient + 1) m with below | same | above
    · exact .inl ⟨below, by rw [← Nat.add_mul]; exact Nat.mul_le_mul_right den below⟩
    · exact .inr (.inl ⟨same, by rw [← same, Nat.add_mul, Nat.one_mul]⟩)
    · exact .inr (.inr ⟨by omega, Nat.mul_le_mul_right den (by omega)⟩)
  omega

/-! ### The rank of a quotient -/

namespace Double

/-- The binade of a quotient: it is below the end of the binade, and not below its start unless that is the least. -/
theorem binade_bounds {num den : Nat} (positive : 0 < den) :
    let k := (num / den).log2 - 52
    num < 2 ^ (k + 53) * den ∧ (k = 0 ∨ 2 ^ (k + 52) * den ≤ num) := by
  intro k
  constructor
  · rw [← Nat.div_lt_iff_lt_mul positive]
    exact Nat.lt_of_lt_of_le Nat.lt_log2_self (Nat.pow_le_pow_right (by decide) (by omega))
  · rcases Nat.eq_zero_or_pos k with zero | later
    · exact .inl zero
    · refine .inr ((Nat.le_div_iff_mul_le positive).mp ?_)
      have exponent : k + 52 = (num / den).log2 := by omega
      rw [exponent]
      refine Nat.log2_self_le fun none => ?_
      rw [none, Nat.log2_zero] at exponent
      omega

/-- The first rank of a binade is reached halfway from the rank before it, as it is even. -/
theorem nearestRank_lt_iff {num den : Nat} (positive : 0 < den) (t : Nat) :
    nearestRank num den < (t + 2) * 2 ^ 52 ↔ 2 * (num * 2 ^ 1074) + 2 ^ t * den < 2 ^ 54 * (2 ^ t * den) := by
  rw [nearestRank]
  generalize num * 2 ^ 1074 = scaled
  have binade := @binade_bounds scaled den positive
  simp only at binade ⊢
  generalize (scaled / den).log2 - 52 = k at *
  have pow (n : Nat) : 2 ^ (k + n) * den = 2 ^ n * (den * 2 ^ k) := by
    rw [Nat.pow_add, Nat.mul_comm (2 ^ k), Nat.mul_assoc, Nat.mul_comm (2 ^ k)]
  rw [pow, pow] at binade
  have spacing : 0 < den * 2 ^ k := Nat.mul_pos positive (Nat.two_pow_pos k)
  have rounded (m : Nat) (even : m % 2 = 0) := @roundHalfEven_lt_iff scaled _ m spacing even
  have most := rounded (2 ^ 53 + 2) (by decide)
  have half := rounded (2 ^ 53) (by decide)
  have fewest := rounded (2 ^ 52) (by decide)
  rcases Nat.lt_trichotomy k t with lower | rfl | higher
  · have doubled : 2 * (den * 2 ^ k) ≤ 2 ^ t * den := by
      have power : 2 ^ (k + 1) ≤ 2 ^ t := Nat.pow_le_pow_right (by decide) lower
      have scaled_power := Nat.mul_le_mul_right den power
      rwa [pow 1] at scaled_power
    generalize den * 2 ^ k = d at *
    generalize 2 ^ t * den = limit at *
    omega
  · rw [Nat.mul_comm (2 ^ k)]
    generalize den * 2 ^ k = d at *
    omega
  · have doubled : 2 * (2 ^ t * den) ≤ den * 2 ^ k := by
      have power : 2 ^ (t + 1) ≤ 2 ^ k := Nat.pow_le_pow_right (by decide) higher
      have scaled_power := Nat.mul_le_mul_right den power
      rwa [Nat.pow_succ, Nat.mul_comm (2 ^ t), Nat.mul_assoc, Nat.mul_comm (2 ^ k)] at scaled_power
    generalize den * 2 ^ k = d at *
    generalize 2 ^ t * den = limit at *
    omega

end Double

theorem Binary64.isSome_finite?_ofQuotient (negative : Bool) (num den : Nat) :
    (ofQuotient negative num den).finite?.isSome ↔ Double.nearestRank num den < 0x7FF0000000000000 := by
  rw [ofQuotient]
  split
  · next fits => exact iff_of_true rfl fits
  · next beyond => exact iff_of_false Bool.false_ne_true beyond

/-! ### Nanoseconds of milliseconds -/

namespace Units

/-- A million times the magnitude is less than halfway from the greatest finite number to `2 ^ 1024`. -/
def FiniteNanos (millis : Double) : Prop :=
  millis.units * 10 ^ 6 < (2 ^ 1024 - 2 ^ 970) * 2 ^ 1074

instance (millis : Double) : Decidable (FiniteNanos millis) :=
  inferInstanceAs (Decidable (_ < _))

theorem units_nanosPerMilli : nanosPerMilli.units = 10 ^ 6 * 2 ^ 1074 := by
  decide +kernel

/-- The units that both sides are counted in do not matter. -/
theorem lt_halfway_iff {millis half unit : Nat} (positive : 0 < unit) :
    2 * (millis * (10 ^ 6 * unit) * unit) + 2 * half * (unit * unit) < 2 ^ 54 * (2 * half * (unit * unit)) ↔
      millis * 10 ^ 6 < (2 ^ 54 - 1) * half := by
  have left : 2 * (millis * (10 ^ 6 * unit) * unit) + 2 * half * (unit * unit) =
      (2 * (millis * 10 ^ 6) + 2 * half) * (unit * unit) := by
    rw [Nat.add_mul]
    congr 1
    ac_rfl
  rw [left, ← Nat.mul_assoc (2 ^ 54), Nat.mul_lt_mul_right (Nat.mul_pos positive positive)]
  omega

theorem isSome_finite?_millisToNanos (millis : Double) :
    (millisToNanos (.finite millis)).finite?.isSome ↔ FiniteNanos millis := by
  have ranks : 0x7FF0000000000000 = (2045 + 2) * 2 ^ 52 := by decide
  have squared : (2 : Nat) ^ 2148 = 2 ^ 1074 * 2 ^ 1074 := by decide +kernel
  have doubled : (2 : Nat) ^ 2045 = 2 * 2 ^ 2044 := by decide +kernel
  have halfway : (2 ^ 1024 - 2 ^ 970) * 2 ^ 1074 = (2 ^ 54 - 1) * (2 : Nat) ^ 2044 := by decide +kernel
  rw [millisToNanos, Binary64.ofProduct, Binary64.isSome_finite?_ofQuotient, ranks,
    Double.nearestRank_lt_iff (Nat.two_pow_pos 2148), FiniteNanos, halfway, squared, doubled, units_nanosPerMilli]
  -- From here on the powers stand for themselves, so that nothing writes them out.
  have positive := Nat.two_pow_pos 1074
  generalize (2 : Nat) ^ 1074 = unit at positive ⊢
  generalize (2 : Nat) ^ 2044 = half
  exact lt_halfway_iff positive

end Units
end SpanSearch
