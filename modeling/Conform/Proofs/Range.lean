import Conform.Number.Double

/-!
# The range of doubles

A whole number is beyond the range of doubles when it is nearest to no finite one.  The bound lies
half a step above the largest double: at the bound itself the tie goes to the even neighbour, which
is the power of two that does not fit.
-/

namespace Conform.Double

/-- The least whole number that no double is near: half a step above the largest double. -/
@[irreducible] def rangeBound : Nat := Nat.pow 2 1024 - Nat.pow 2 970

/-! ## Rounding a quotient -/

theorem nearest_mul_right (numerator denominator : Nat) {scale : Nat} (positive : 0 < scale) :
    nearest (numerator * scale) (denominator * scale) = nearest numerator denominator := by
  have less : ∀ m n : Nat, m * scale < n * scale ↔ m < n := fun m n =>
    Nat.mul_lt_mul_right positive
  have same : ∀ m n : Nat, m * scale = n * scale ↔ m = n := fun m n =>
    Nat.mul_left_inj (Nat.ne_of_gt positive)
  simp [nearest, Nat.mul_div_mul_right _ _ positive, Nat.mul_mod_mul_right, ← Nat.mul_assoc, less,
    same]

theorem div_le_nearest (numerator denominator : Nat) :
    numerator / denominator ≤ nearest numerator denominator := by
  simp only [nearest]
  split
  · exact Nat.le_refl _
  · split
    · exact Nat.le_refl _
    · exact Nat.le_succ _

/-- Rounding leads to the next even number from half a step below it on. -/
theorem nearest_eq_iff_of_lt {numerator half whole : Nat} (odd : whole % 2 = 1)
    (below : numerator < (whole + 1) * (2 * half)) :
    nearest numerator (2 * half) = whole + 1 ↔ whole * (2 * half) + half ≤ numerator := by
  have divided := Nat.div_add_mod numerator (2 * half)
  have positive : 0 < 2 * half := by
    rcases Nat.eq_zero_or_pos (2 * half) with zero | positive
    · simp [zero] at below
    · exact positive
  have remainder := Nat.mod_lt numerator positive
  have upper : numerator / (2 * half) ≤ whole :=
    Nat.le_of_lt_succ (Nat.div_lt_of_lt_mul (Nat.mul_comm _ _ ▸ below))
  rcases Nat.lt_or_eq_of_le upper with less | same
  · -- The quotient is more than a step away.
    have far : (numerator / (2 * half) + 1) * (2 * half) ≤ whole * (2 * half) :=
      Nat.mul_le_mul_right _ less
    have away : nearest numerator (2 * half) ≤ numerator / (2 * half) + 1 := by
      simp only [nearest]
      split
      · omega
      · split <;> omega
    rw [Nat.add_mul, Nat.mul_comm] at far
    constructor <;> intro <;> omega
  · rw [same, Nat.mul_comm] at divided
    simp only [nearest, same, odd]
    generalize numerator % (2 * half) = rest at *
    generalize whole * (2 * half) = steps at *
    split
    · omega
    · simp only [Nat.one_ne_zero, and_false, if_false, true_iff]
      omega

/-! ## Infinities -/

/-- A significand gives an infinity when its exponent does not fit. -/
@[simp] theorem isInfinite_ofSignificand (negative : Bool) (significand shift : Nat) :
    (ofSignificand negative significand shift).isInfinite = true ↔
      fractionBound ≤ significand ∧
        (2046 ≤ shift ∨ (significand = 2 * fractionBound ∧ 2045 ≤ shift)) := by
  have fits : ∀ {exponent : Nat} (fraction : Fin 4503599627370496), exponent < 2047 →
      (Double.mk negative (Fin.ofNat _ exponent) fraction).isInfinite = false := by
    intro exponent fraction small
    have other : (Fin.ofNat 2048 exponent == 2047) = false := by
      rw [beq_eq_false_iff_ne, ne_eq, Fin.ext_iff]
      show ¬exponent % 2048 = 2047
      omega
    simp only [isInfinite, other, Bool.false_and]
  have infinite : (infinity negative).isInfinite = true := rfl
  have positive : 0 < fractionBound := by decide
  simp only [ofSignificand]
  split
  case isTrue small =>
    have finite : (Double.mk negative 0 (Fin.ofNat _ significand)).isInfinite = false := rfl
    simp only [finite, Bool.false_eq_true, false_iff]
    omega
  case isFalse large =>
    by_cases carried : significand = 2 * fractionBound
    · simp only [carried, beq_self_eq_true, if_true, true_and]
      split
      case isTrue small =>
        simp only [fits _ small, Bool.false_eq_true, false_iff]
        omega
      case isFalse =>
        simp only [infinite, true_iff]
        omega
    · simp only [beq_eq_false_iff_ne.mpr carried, Bool.false_eq_true, if_false, carried, false_and,
        or_false]
      split
      case isTrue small =>
        simp only [fits _ small, Bool.false_eq_true, false_iff]
        omega
      case isFalse =>
        simp only [infinite, true_iff]
        omega

/-! ## Whole numbers -/

theorem gridOne_pos : 0 < gridOne := by decide +kernel

theorem log2_mul_gridOne {size : Nat} (positive : size ≠ 0) :
    Nat.log2 (size * gridOne) = Nat.log2 size + gridExponent := by
  rw [Nat.log2_eq_iff (Nat.mul_ne_zero positive (Nat.ne_of_gt gridOne_pos))]
  have unit : gridOne = 2 ^ gridExponent := by decide +kernel
  rw [unit, Nat.add_right_comm, Nat.pow_add, Nat.pow_add]
  generalize gridExponent = exponent
  exact ⟨Nat.mul_le_mul_right _ (Nat.log2_self_le positive),
    Nat.mul_lt_mul_of_pos_right Nat.lt_log2_self (Nat.pow_pos (by decide))⟩

theorem nearest_last_binade {size : Nat} (below : size < Nat.pow 2 1024) :
    nearest (size * gridOne) (Nat.pow 2 2045) = 2 * fractionBound ↔ rangeBound ≤ size := by
  have steps : 2 * fractionBound = 9007199254740991 + 1 := by decide
  obtain ⟨half, unit, bound, top⟩ : ∃ half, Nat.pow 2 2045 = 2 * half * gridOne ∧
      rangeBound = 9007199254740991 * (2 * half) + half ∧
      Nat.pow 2 1024 = (9007199254740991 + 1) * (2 * half) :=
    ⟨Nat.pow 2 970, by decide +kernel⟩
  rw [unit, nearest_mul_right _ _ gridOne_pos, steps, bound]
  exact nearest_eq_iff_of_lt (by decide) (top ▸ below)

/-- A whole number has no double near it exactly from the bound of their range on. -/
@[simp] theorem ofInt?_eq_none_iff (n : Int) : ofInt? n = none ↔ rangeBound ≤ n.natAbs := by
  simp only [ofInt?, ite_eq_left_iff, reduceCtorEq, imp_false, Bool.not_eq_true, Bool.not_eq_false]
  generalize n.natAbs = size
  rw [ofQuotient, ofUnits, isInfinite_ofSignificand, Nat.div_one, Nat.one_mul]
  rcases Nat.eq_zero_or_pos size with rfl | positive
  · have bound : ¬rangeBound ≤ 0 := by decide +kernel
    have small : 0 * gridOne < 2 * fractionBound := by decide +kernel
    simp only [if_pos small, bound, iff_false]
    omega
  have nonzero : size ≠ 0 := Nat.ne_of_gt positive
  have low := Nat.log2_self_le nonzero
  have high := Nat.lt_log2_self (n := size)
  have large : ¬size * gridOne < 2 * fractionBound := by
    have one : 2 * fractionBound ≤ 1 * gridOne := by decide +kernel
    exact Nat.not_lt.mpr (Nat.le_trans one (Nat.mul_le_mul_right _ positive))
  have shift : Nat.log2 size + gridExponent - 52 = Nat.log2 size + 1022 := by
    unfold gridExponent
    omega
  rw [if_neg large, log2_mul_gridOne nonzero, shift]
  rcases Nat.lt_trichotomy (Nat.log2 size) 1023 with less | equal | greater
  · have below : 2 ^ (Nat.log2 size + 1) ≤ rangeBound :=
      Nat.le_trans (Nat.pow_le_pow_right (by decide) (Nat.succ_le_of_lt less))
        (by decide +kernel)
    constructor <;> intro <;> omega
  · rw [equal] at high
    have below : size < Nat.pow 2 1024 := Nat.lt_of_lt_of_eq high (by decide +kernel)
    have unit : Nat.pow 2 (1023 + 1022) = Nat.pow 2 2045 := by decide +kernel
    rw [equal, unit, ← nearest_last_binade below]
    generalize nearest (size * gridOne) (Nat.pow 2 2045) = rounded
    unfold fractionBound
    omega
  · have above : rangeBound ≤ 2 ^ Nat.log2 size :=
      Nat.le_trans (by decide +kernel) (Nat.pow_le_pow_right (by decide) greater)
    have quotient : fractionBound ≤ size * gridOne / 2 ^ (Nat.log2 size + 1022) := by
      rw [Nat.le_div_iff_mul_le (Nat.pow_pos (by decide))]
      have unit : fractionBound * 2 ^ 1022 = gridOne := by decide +kernel
      generalize (1022 : Nat) = exponent at unit
      calc fractionBound * 2 ^ (Nat.log2 size + exponent)
          = 2 ^ Nat.log2 size * (fractionBound * 2 ^ exponent) := by
            rw [Nat.pow_add, Nat.mul_left_comm]
        _ = 2 ^ Nat.log2 size * gridOne := by rw [unit]
        _ ≤ size * gridOne := Nat.mul_le_mul_right _ low
    have rounded := Nat.le_trans quotient (div_le_nearest _ _)
    refine iff_of_true ⟨rounded, .inl ?_⟩ (Nat.le_trans above low)
    omega

end Conform.Double
