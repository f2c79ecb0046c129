import Mathlib.Algebra.Order.Field.Rat
import Mathlib.Algebra.Order.Group.Abs
import Mathlib.Tactic.Linarith
import Mathlib.Tactic.Positivity
import Mathlib.Tactic.Ring
import ResponseCheck.Number.Binary64

/-!
# Binary numbers as rational numbers

The magnitude of a binary number determines its significand and its scale: with a greater scale
there is a hidden bit, which makes it greater than all numbers of a smaller scale. So two numbers
stand for the same rational number only if they are the same, or are both zero.
-/

namespace ResponseCheck.Binary64

variable {x y : Binary64} {scale : Nat}

/-! ### Magnitudes -/

theorem unit_pos : 0 < unit := by
  unfold unit
  generalize 1074 = n
  exact Nat.two_pow_pos n

theorem unit_eq : unit = 2 ^ 1074 := by
  unfold unit
  generalize 1074 = n
  rfl

theorem leadingBit_eq : leadingBit = 2 ^ 52 := rfl

theorem significand_lt (x : Binary64) : x.significand < 2 * leadingBit := by
  have hfraction := x.fraction.isLt
  unfold significand
  split <;> omega

theorem leadingBit_le_significand (h : 0 < x.scale) : leadingBit ≤ x.significand := by
  have hexponent : x.exponent.val ≠ 0 := by
    unfold scale at h
    omega
  rw [significand, if_neg hexponent]
  exact Nat.le_add_right ..

theorem units_eq (x : Binary64) : x.units = x.significand * 2 ^ x.scale := rfl

/-- A number of a smaller scale is below all those numbers of a scale that have the hidden bit. -/
theorem units_lt (h : x.scale < scale) : x.units < leadingBit * 2 ^ scale := by
  calc x.units < 2 * leadingBit * 2 ^ x.scale :=
        Nat.mul_lt_mul_of_pos_right x.significand_lt (Nat.two_pow_pos _)
    _ = leadingBit * 2 ^ (x.scale + 1) := by rw [pow_succ]; ring
    _ ≤ leadingBit * 2 ^ scale := Nat.mul_le_mul_left _ (Nat.pow_le_pow_right (by decide) h)

theorem le_units (h : 0 < x.scale) : leadingBit * 2 ^ x.scale ≤ x.units :=
  Nat.mul_le_mul_right _ (leadingBit_le_significand h)

theorem scale_eq_of_units_eq (h : x.units = y.units) : x.scale = y.scale := by
  rcases Nat.lt_trichotomy x.scale y.scale with hlt | heq | hlt
  · exact absurd (h ▸ le_units (Nat.zero_lt_of_lt hlt)) (Nat.not_le.mpr (units_lt hlt))
  · exact heq
  · exact absurd (h ▸ le_units (Nat.zero_lt_of_lt hlt)) (Nat.not_le.mpr (units_lt hlt))

theorem significand_eq_of_units_eq (h : x.units = y.units) : x.significand = y.significand := by
  rw [units_eq, units_eq, scale_eq_of_units_eq h] at h
  exact Nat.eq_of_mul_eq_mul_right (Nat.two_pow_pos _) h

/-- The magnitude of a number determines all of it but the sign. -/
theorem eq_of_units_eq (h : x.units = y.units) (hsign : x.negative = y.negative) : x = y := by
  have hscale := scale_eq_of_units_eq h
  have hsignificand := significand_eq_of_units_eq h
  obtain ⟨sign, exponent, fraction⟩ := x
  obtain ⟨sign', exponent', fraction'⟩ := y
  simp only [significand, scale] at hscale hsignificand hsign
  have hfraction := fraction.isLt
  have hfraction' := fraction'.isLt
  obtain rfl := hsign
  -- The hidden bit tells the least two exponents apart, which have the same scale.
  have hfields : exponent.val = exponent'.val ∧ fraction.val = fraction'.val := by
    split at hsignificand <;> split at hsignificand <;> omega
  rw [Fin.ext hfields.1, Fin.ext hfields.2]

/-! ### As rational numbers -/

/-- The rational number with a sign and a magnitude. -/
def signed (negative : Bool) (magnitude : ℚ) : ℚ := if negative then -magnitude else magnitude

/-- The rational number that a binary number stands for. -/
def toRat (x : Binary64) : ℚ := signed x.negative (x.units / unit)

theorem unit_pos_rat : (0 : ℚ) < unit := Nat.cast_pos.mpr unit_pos

@[simp] theorem signed_false (q : ℚ) : signed false q = q := rfl

@[simp] theorem signed_true (q : ℚ) : signed true q = -q := rfl

@[simp] theorem signed_zero (negative : Bool) : signed negative 0 = 0 := by
  cases negative <;> simp

theorem abs_signed (negative : Bool) (q : ℚ) : |signed negative q| = |q| := by
  cases negative
  · rfl
  · exact abs_neg q

theorem isZero_iff : x.isZero = true ↔ x.units = 0 := by
  rw [units_eq, Nat.mul_eq_zero, or_iff_left (Nat.two_pow_pos _).ne', isZero, significand,
    Bool.and_eq_true, beq_iff_eq, beq_iff_eq]
  split
  · next h => simp [h]
  · next h => exact iff_of_false (fun hzero => h hzero.1) (by omega)

theorem abs_toRat (x : Binary64) : |x.toRat| = x.units / unit := by
  rw [toRat, abs_signed, abs_of_nonneg]
  positivity

theorem units_eq_of_toRat_eq (h : x.toRat = y.toRat) : x.units = y.units := by
  have habs := congrArg abs h
  rw [abs_toRat, abs_toRat, div_left_inj' unit_pos_rat.ne'] at habs
  exact_mod_cast habs

/-- A number whose magnitude is a number of whole ones. -/
theorem toRat_of_units_eq {whole : Nat} (h : x.units = whole * unit) :
    x.toRat = signed x.negative whole := by
  rw [toRat, h, Nat.cast_mul, mul_div_cancel_right₀ _ unit_pos_rat.ne']

theorem toRat_eq_zero_iff : x.toRat = 0 ↔ x.units = 0 := by
  rw [← abs_eq_zero, abs_toRat, div_eq_zero_iff, or_iff_left unit_pos_rat.ne', Nat.cast_eq_zero]

theorem units_zero : zero.units = 0 := rfl

/-- Numeric equality is equality of the rational numbers. -/
theorem eqv_iff : x.eqv y = true ↔ x.toRat = y.toRat := by
  rw [eqv, Bool.or_eq_true, beq_iff_eq, Bool.and_eq_true, isZero_iff, isZero_iff,
    ← toRat_eq_zero_iff, ← toRat_eq_zero_iff]
  constructor
  · rintro (rfl | ⟨hx, hy⟩)
    · rfl
    · rw [hx, hy]
  · intro h
    have hunits := units_eq_of_toRat_eq h
    by_cases hsign : x.negative = y.negative
    · exact .inl (eq_of_units_eq hunits hsign)
    · -- Numbers of different signs are equal when they are zero.
      have hneg : x.toRat = -y.toRat := by
        rw [toRat, toRat, hunits, Bool.eq_not.mpr hsign]
        generalize (y.units : ℚ) / unit = q
        cases y.negative <;> simp
      have hy : y.toRat = 0 := by linarith
      exact .inr ⟨h.trans hy, hy⟩

end ResponseCheck.Binary64
