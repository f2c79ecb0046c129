import Mathlib.Data.Nat.Cast.Order.Field
import Mathlib.Tactic.FieldSimp
import Mathlib.Tactic.NormNum
import ResponseCheck.Proofs.Number.Rational

/-!
# Rounding to the nearest binary number

A quotient is rounded to a natural number of steps, where the step is the distance of the numbers
whose magnitude has as many bits. Numbers with a greater step are multiples of it, and those with a
smaller one are below all numbers that have it; so what is nearest among the multiples is nearest
among all binary numbers. Of two that are as near, the one with the even significand is taken.

## Main definitions

* `Binary64.IsNearest` — the binary number that a rational number is rounded to
* `Binary64.scaleOf`, `Binary64.significandOf` — the step for a quotient, and how many there are

## Main results

* `Binary64.roundDiv_nearest` — the natural number that is nearest to a quotient
* `Binary64.units_nearest` — the magnitude that is nearest to a quotient
* `Binary64.isNearest_of_ofRatio?`, `Binary64.isNearest_of_ofInt?` — quotients and integers are
  rounded to the nearest binary number
* `Binary64.IsNearest.toRat_eq` — there is only one such number
* `Binary64.exists_toRat_eq` — integers that need not be rounded
-/

namespace ResponseCheck.Binary64

variable {x y : Binary64} {q : ℚ} {scale : Nat}

/-! ### The number that is nearest -/

/-- The binary number that a rational number is rounded to: every other one is farther from it, or
is as far and has an odd significand where this one has an even one. -/
def IsNearest (x : Binary64) (q : ℚ) : Prop :=
  ∀ y : Binary64, y.toRat ≠ x.toRat →
    |x.toRat - q| < |y.toRat - q| ∨
      (|x.toRat - q| = |y.toRat - q| ∧ x.significand % 2 = 0 ∧ y.significand % 2 = 1)

theorem isNearest_toRat (x : Binary64) : x.IsNearest x.toRat := by
  intro y hne
  rw [sub_self, abs_zero]
  exact .inl (abs_pos.mpr (sub_ne_zero.mpr hne))

theorem IsNearest.of_toRat_eq (h : x.IsNearest q) (hsame : x.toRat = y.toRat) : y.IsNearest q := by
  intro z hne
  rw [← hsame, ← significand_eq_of_units_eq (units_eq_of_toRat_eq hsame)]
  exact h z (hsame ▸ hne)

/-- A number is rounded to one number only. -/
theorem IsNearest.toRat_eq (hx : x.IsNearest q) (hy : y.IsNearest q) : x.toRat = y.toRat := by
  by_contra hne
  rcases hx y (Ne.symm hne) with hlt | ⟨htie, -, hodd⟩
  · rcases hy x hne with hgt | ⟨htie, -⟩
    · exact lt_asymm hlt hgt
    · exact hlt.ne' htie
  · rcases hy x hne with hgt | ⟨-, heven, -⟩
    · exact hgt.ne' htie
    · omega

/-! ### Rounding a quotient -/

/-- The fractional part of a quotient is on the near side of a half, and even at the half. -/
theorem roundDiv_cases (num den : Nat) :
    (roundDiv num den = num / den ∧ 2 * (num % den) < den) ∨
      (roundDiv num den = num / den + 1 ∧ den < 2 * (num % den)) ∨
      (roundDiv num den % 2 = 0 ∧ 2 * (num % den) = den ∧
        (roundDiv num den = num / den ∨ roundDiv num den = num / den + 1)) := by
  simp only [roundDiv]
  split_ifs <;> omega

variable {num den m : Nat}

/-- The rounded quotient is less than a half away, or just a half and even. -/
theorem abs_roundDiv_sub (num : Nat) (hden : 0 < den) :
    |(roundDiv num den : ℚ) - num / den| < 1 / 2 ∨
      (|(roundDiv num den : ℚ) - num / den| = 1 / 2 ∧ roundDiv num den % 2 = 0) := by
  have hpos : (0 : ℚ) < den := Nat.cast_pos.mpr hden
  obtain ⟨rest, hrest⟩ : ∃ rest : ℚ, rest = (num % den : Nat) / den := ⟨_, rfl⟩
  have hquotient : (num : ℚ) / den = (num / den : Nat) + rest := by
    have hnum : (num : ℚ) = den * (num / den : Nat) + (num % den : Nat) :=
      mod_cast (Nat.div_add_mod num den).symm
    rw [hrest, hnum]
    field_simp
  have hnonneg : 0 ≤ rest := by
    rw [hrest]
    positivity
  have hlt : rest < 1 := by
    rw [hrest, div_lt_one hpos]
    exact_mod_cast Nat.mod_lt num hden
  rw [hquotient]
  rcases roundDiv_cases num den with ⟨hround, hbelow⟩ | ⟨hround, habove⟩ | ⟨heven, htie, hround⟩
  · have hhalf : rest < 1 / 2 := by
      rw [hrest, div_lt_iff₀ hpos]
      have : (2 * (num % den : Nat) : ℚ) < den := mod_cast hbelow
      linarith
    rw [hround, sub_add_cancel_left, abs_neg, abs_of_nonneg hnonneg]
    exact .inl hhalf
  · have hhalf : 1 / 2 < rest := by
      rw [hrest, lt_div_iff₀ hpos]
      have : (den : ℚ) < 2 * (num % den : Nat) := mod_cast habove
      linarith
    rw [hround, Nat.cast_succ, add_sub_add_left_eq_sub, abs_of_pos (sub_pos.mpr hlt)]
    exact .inl (by linarith)
  · have hhalf : rest = 1 / 2 := by
      rw [hrest, div_eq_iff hpos.ne']
      have : (2 * (num % den : Nat) : ℚ) = den := mod_cast htie
      linarith
    refine .inr ⟨?_, heven⟩
    rw [hhalf]
    rcases hround with hround | hround
    · rw [hround, sub_add_cancel_left, abs_neg, abs_of_pos one_half_pos]
    · rw [hround, Nat.cast_succ, add_sub_add_left_eq_sub]
      norm_num

/-- Any other natural number is farther from a quotient than the rounded one, or as far and odd. -/
theorem roundDiv_nearest (hden : 0 < den) (hm : m ≠ roundDiv num den) :
    |(roundDiv num den : ℚ) - num / den| < |(m : ℚ) - num / den| ∨
      (|(roundDiv num den : ℚ) - num / den| = |(m : ℚ) - num / den| ∧
        roundDiv num den % 2 = 0 ∧ m % 2 = 1) := by
  have hround := abs_roundDiv_sub num hden
  generalize roundDiv num den = r at hm hround
  generalize (num : ℚ) / den = q at hround
  -- Two natural numbers are at least one apart.
  have hone : 1 ≤ |(m : ℚ) - r| := by
    rcases Nat.lt_or_gt_of_ne hm with hlt | hgt
    · rw [abs_sub_comm, abs_of_nonneg] <;> linarith [(mod_cast hlt : (m : ℚ) + 1 ≤ r)]
    · rw [abs_of_nonneg] <;> linarith [(mod_cast hgt : (r : ℚ) + 1 ≤ m)]
  have htriangle : |(m : ℚ) - r| ≤ |(m : ℚ) - q| + |(r : ℚ) - q| := by
    rw [abs_sub_comm (r : ℚ) q]
    exact abs_sub_le _ _ _
  rcases hround with hlt | ⟨hhalf, heven⟩
  · exact .inl (by linarith)
  · rcases lt_or_ge |(r : ℚ) - q| |(m : ℚ) - q| with hfar | hnear
    · exact .inl hfar
    · have hnext : |(m : ℚ) - r| ≤ 1 := by linarith
      refine .inr ⟨by linarith, heven, ?_⟩
      have hle : m ≤ r + 1 ∧ r ≤ m + 1 := by
        obtain ⟨hlower, hupper⟩ := abs_le.mp hnext
        constructor
        · exact_mod_cast (by linarith : (m : ℚ) ≤ r + 1)
        · exact_mod_cast (by linarith : (r : ℚ) ≤ m + 1)
      omega

theorem div_le_roundDiv (num den : Nat) : num / den ≤ roundDiv num den := by
  rcases roundDiv_cases num den with h | h | h <;> omega

theorem roundDiv_le_div_succ (num den : Nat) : roundDiv num den ≤ num / den + 1 := by
  rcases roundDiv_cases num den with h | h | h <;> omega

/-! ### The nearest number to a quotient -/

/-- The scale at which a quotient has as many bits as a significand, or fewer near zero. -/
def scaleOf (num den : Nat) : Nat := Nat.log2 (num / den) - 52

theorem leadingBit_mul_le (h : 0 < scaleOf num den) :
    leadingBit * 2 ^ scaleOf num den ≤ num / den := by
  have hne : num / den ≠ 0 := by
    intro hzero
    rw [scaleOf, hzero] at h
    exact absurd h (by decide)
  calc leadingBit * 2 ^ scaleOf num den = 2 ^ (52 + scaleOf num den) := by
        rw [leadingBit_eq, pow_add]
    _ = 2 ^ Nat.log2 (num / den) := by
        congr 1
        unfold scaleOf at h ⊢
        omega
    _ ≤ num / den := Nat.log2_self_le hne

theorem div_lt_leadingBit_mul (num den : Nat) :
    num / den < 2 * leadingBit * 2 ^ scaleOf num den := by
  calc num / den < 2 ^ (Nat.log2 (num / den) + 1) := Nat.lt_log2_self
    _ ≤ 2 ^ (53 + scaleOf num den) := by
        refine Nat.pow_le_pow_right (by decide) ?_
        unfold scaleOf
        omega
    _ = 2 * leadingBit * 2 ^ scaleOf num den := by
        rw [leadingBit_eq, pow_add]
        rfl

/-- The significand that a quotient is rounded to. -/
def significandOf (num den : Nat) : Nat := roundDiv num (den * 2 ^ scaleOf num den)

theorem significandOf_le (num den : Nat) : significandOf num den ≤ 2 * leadingBit := by
  have hlt : num / den / 2 ^ scaleOf num den < 2 * leadingBit :=
    Nat.div_lt_of_lt_mul (by rw [Nat.mul_comm]; exact div_lt_leadingBit_mul num den)
  rw [Nat.div_div_eq_div_mul] at hlt
  exact (roundDiv_le_div_succ _ _).trans hlt

theorem leadingBit_le_significandOf (h : 0 < scaleOf num den) :
    leadingBit ≤ significandOf num den := by
  have hle : leadingBit ≤ num / den / 2 ^ scaleOf num den :=
    (Nat.le_div_iff_mul_le (Nat.two_pow_pos _)).mpr (leadingBit_mul_le h)
  rw [Nat.div_div_eq_div_mul] at hle
  exact hle.trans (div_le_roundDiv _ _)

/-- At its scale, the rounded quotient is nearer than other multiples. -/
theorem significandOf_nearest (hden : 0 < den) (hm : m ≠ significandOf num den) :
    |(significandOf num den * 2 ^ scaleOf num den : ℚ) - num / den| <
        |(m * 2 ^ scaleOf num den : ℚ) - num / den| ∨
      (|(significandOf num den * 2 ^ scaleOf num den : ℚ) - num / den| =
          |(m * 2 ^ scaleOf num den : ℚ) - num / den| ∧
        significandOf num den % 2 = 0 ∧ m % 2 = 1) := by
  have hpow : (0 : ℚ) < 2 ^ scaleOf num den := by positivity
  have hscaled (a : ℚ) : |a * 2 ^ scaleOf num den - num / den| =
      2 ^ scaleOf num den * |a - num / (den * 2 ^ scaleOf num den : Nat)| := by
    rw [← abs_of_pos hpow, ← abs_mul, abs_of_pos hpow, mul_sub, mul_comm a]
    congr 2
    push_cast
    field_simp
  have hnearest := roundDiv_nearest (Nat.mul_pos hden (Nat.two_pow_pos _)) hm
  rw [hscaled, hscaled, mul_lt_mul_iff_right₀ hpow, mul_right_inj' hpow.ne']
  exact hnearest

theorem leadingBit_mul_le_rat (h : 0 < scaleOf num den) :
    (leadingBit * 2 ^ scaleOf num den : ℚ) ≤ num / den := by
  calc (leadingBit * 2 ^ scaleOf num den : ℚ) = (leadingBit * 2 ^ scaleOf num den : Nat) := by
        push_cast
        rfl
    _ ≤ (num / den : Nat) := Nat.cast_le.mpr (leadingBit_mul_le h)
    _ ≤ num / den := Nat.cast_div_le

/-- Any binary number is farther in units than the rounded quotient, or as far and odd. -/
theorem units_nearest (hden : 0 < den) (y : Binary64)
    (hne : y.units ≠ significandOf num den * 2 ^ scaleOf num den) :
    |(significandOf num den * 2 ^ scaleOf num den : ℚ) - num / den| <
        |(y.units : ℚ) - num / den| ∨
      (|(significandOf num den * 2 ^ scaleOf num den : ℚ) - num / den| =
          |(y.units : ℚ) - num / den| ∧
        significandOf num den % 2 = 0 ∧ y.significand % 2 = 1) := by
  rcases Nat.lt_or_ge y.scale (scaleOf num den) with hscale | hscale
  · -- A number of a smaller scale is below the least one that has the scale.
    have hbelow : (y.units : ℚ) < leadingBit * 2 ^ scaleOf num den := by
      exact_mod_cast units_lt hscale
    have hleast := leadingBit_mul_le_rat (Nat.zero_lt_of_lt hscale)
    have hfar : |(leadingBit * 2 ^ scaleOf num den : ℚ) - num / den| <
        |(y.units : ℚ) - num / den| := by
      rw [abs_of_nonpos (sub_nonpos.mpr hleast),
        abs_of_nonpos (sub_nonpos.mpr (hbelow.le.trans hleast))]
      exact neg_lt_neg (sub_lt_sub_right hbelow _)
    by_cases hsame : leadingBit = significandOf num den
    · exact .inl (hsame ▸ hfar)
    · rcases significandOf_nearest hden hsame with hnear | ⟨htie, -⟩
      · exact .inl (hnear.trans hfar)
      · exact .inl (htie ▸ hfar)
  · -- A number of this scale or a greater one is a multiple.
    have hmultiple : y.units =
        y.significand * 2 ^ (y.scale - scaleOf num den) * 2 ^ scaleOf num den := by
      rw [units_eq, Nat.mul_assoc, ← pow_add, Nat.sub_add_cancel hscale]
    have hother : y.significand * 2 ^ (y.scale - scaleOf num den) ≠ significandOf num den :=
      fun hsame => hne (hsame ▸ hmultiple)
    rw [hmultiple]
    refine (significandOf_nearest hden hother).imp ?_ ?_
    · intro hnear
      push_cast at hnear ⊢
      exact hnear
    · rintro ⟨htie, heven, hodd⟩
      push_cast at htie ⊢
      refine ⟨htie, heven, ?_⟩
      exact Nat.odd_iff.mp (Nat.odd_mul.mp (Nat.odd_iff.mpr hodd)).1

theorem ofParts?_eq_some {negative : Bool} {significand : Nat}
    (h : ofParts? negative significand scale = some x) :
    x.negative = negative ∧ x.significand = significand ∧ x.scale = scale := by
  unfold ofParts? at h
  split at h
  · split at h
    · obtain rfl := Option.some.inj h
      simp_all [Binary64.significand, Binary64.scale]
    · cases h
  · split at h
    · obtain rfl := Option.some.inj h
      simp [Binary64.significand, Binary64.scale]
      omega
    · cases h

theorem isSome_ofParts? {negative : Bool} {significand : Nat}
    (hlt : significand < 2 * leadingBit) (hscale : scale < 2046)
    (hnormal : 0 < scale → leadingBit ≤ significand) :
    (ofParts? negative significand scale).isSome := by
  unfold ofParts?
  split
  · next hsmall =>
    have hzero : scale = 0 := by omega
    rw [if_pos hzero]
    rfl
  · next hlarge =>
    rw [dif_pos (by omega)]
    rfl

theorem ofRatio?_eq (negative : Bool) (num den : Nat) :
    ofRatio? negative num den =
      if significandOf (num * unit) den = 2 * leadingBit then
        ofParts? negative leadingBit (scaleOf (num * unit) den + 1)
      else ofParts? negative (significandOf (num * unit) den) (scaleOf (num * unit) den) := rfl

/-- The rounded quotient has the sign, the magnitude and the parity that were computed. -/
theorem ofRatio?_eq_some {negative : Bool} (h : ofRatio? negative num den = some x) :
    x.negative = negative ∧
      x.units = significandOf (num * unit) den * 2 ^ scaleOf (num * unit) den ∧
      (significandOf (num * unit) den % 2 = 0 → x.significand % 2 = 0) := by
  rw [ofRatio?_eq] at h
  split at h
  · next hcarry =>
    obtain ⟨hsign, hsignificand, hscale⟩ := ofParts?_eq_some h
    refine ⟨hsign, ?_, fun _ => hsignificand ▸ rfl⟩
    rw [units_eq, hsignificand, hscale, hcarry, pow_succ]
    ring
  · obtain ⟨hsign, hsignificand, hscale⟩ := ofParts?_eq_some h
    exact ⟨hsign, by rw [units_eq, hsignificand, hscale], fun heven => hsignificand ▸ heven⟩

theorem isSome_ofRatio? (negative : Bool) (h : Nat.log2 (num * unit / den) < 2097) :
    (ofRatio? negative num den).isSome := by
  have hscale : scaleOf (num * unit) den < 2045 := by
    unfold scaleOf
    omega
  rw [ofRatio?_eq]
  split
  · exact isSome_ofParts? (by decide) (by omega) fun _ => le_rfl
  · next hcarry =>
    exact isSome_ofParts? (lt_of_le_of_ne (significandOf_le _ _) hcarry) (by omega)
      leadingBit_le_significandOf

theorem abs_div_of_pos {a b : ℚ} (h : 0 < b) : |a / b| = |a| / b := by
  rw [abs_div, abs_of_pos h]

/-- How far a number is from a quotient of its sign. -/
theorem abs_toRat_sub_signed {negative : Bool} (h : x.negative = negative ∨ x.units = 0)
    (num den : Nat) :
    |x.toRat - signed negative (num / den)| =
      |(x.units : ℚ) - (num * unit : Nat) / den| / unit := by
  have hscaled : |(x.units : ℚ) - (num * unit : Nat) / den| / unit =
      |(x.units / unit : ℚ) - num / den| := by
    rw [← abs_div_of_pos unit_pos_rat, sub_div, Nat.cast_mul, div_right_comm,
      mul_div_cancel_right₀ _ unit_pos_rat.ne']
  rw [hscaled, toRat]
  rcases h with rfl | hzero
  · cases x.negative with
    | false => rw [signed_false, signed_false]
    | true => rw [signed_true, signed_true, neg_sub_neg, abs_sub_comm]
  · rw [hzero, Nat.cast_zero, zero_div, signed_zero, zero_sub, zero_sub, abs_neg, abs_neg,
      abs_signed]

/-- A number of the other sign is farther than zero. -/
theorem lt_abs_toRat_sub_signed {negative : Bool} (hsign : x.negative ≠ negative)
    (hunits : x.units ≠ 0) (num den : Nat) :
    (num / den : ℚ) < |x.toRat - signed negative (num / den)| := by
  have hpos : (0 : ℚ) < x.units / unit :=
    div_pos (Nat.cast_pos.mpr (Nat.pos_of_ne_zero hunits)) unit_pos_rat
  have hquotient : (0 : ℚ) ≤ num / den := by positivity
  rw [toRat, Bool.eq_not.mpr hsign]
  cases negative with
  | false =>
    rw [Bool.not_false, signed_true, signed_false, ← neg_add', abs_neg,
      abs_of_nonneg (add_nonneg hpos.le hquotient)]
    exact lt_add_of_pos_left _ hpos
  | true =>
    rw [Bool.not_true, signed_false, signed_true, sub_neg_eq_add,
      abs_of_nonneg (add_nonneg hpos.le hquotient)]
    exact lt_add_of_pos_left _ hpos

/-- The rounded quotient is the nearest number to the quotient. -/
theorem isNearest_of_ofRatio? {negative : Bool} (hden : 0 < den)
    (h : ofRatio? negative num den = some x) : x.IsNearest (signed negative (num / den)) := by
  obtain ⟨hsign, hunits, heven⟩ := ofRatio?_eq_some h
  have hunit := unit_pos_rat
  have hx := abs_toRat_sub_signed (.inl hsign) num den
  -- What holds of a number with the sign, or of zero, is known from the magnitudes.
  have hnearest (y : Binary64) (hside : y.negative = negative ∨ y.units = 0)
      (hne : y.units ≠ x.units) :
      |x.toRat - signed negative (num / den)| < |y.toRat - signed negative (num / den)| ∨
        (|x.toRat - signed negative (num / den)| = |y.toRat - signed negative (num / den)| ∧
          x.significand % 2 = 0 ∧ y.significand % 2 = 1) := by
    have hxunits : (x.units : ℚ) =
        significandOf (num * unit) den * 2 ^ scaleOf (num * unit) den := by
      rw [hunits]
      push_cast
      rfl
    rw [hx, abs_toRat_sub_signed hside, div_lt_div_iff_of_pos_right hunit, div_left_inj' hunit.ne',
      hxunits]
    refine (units_nearest hden y (hunits ▸ hne)).imp_right ?_
    rintro ⟨htie, hparity, hodd⟩
    exact ⟨htie, heven hparity, hodd⟩
  intro y hne
  by_cases hside : y.negative = negative ∨ y.units = 0
  · refine hnearest y hside fun hsame => hne ?_
    rcases hside with hside | hzero
    · rw [toRat, toRat, hsame, hside, hsign]
    · rw [toRat_eq_zero_iff.mpr hzero, toRat_eq_zero_iff.mpr (hsame ▸ hzero)]
  · obtain ⟨hother, hpos⟩ := not_or.mp hside
    have hzero : |zero.toRat - signed negative (num / den)| = num / den := by
      rw [toRat_eq_zero_iff.mpr units_zero, zero_sub, abs_neg, abs_signed,
        abs_of_nonneg (div_nonneg num.cast_nonneg den.cast_nonneg)]
    have hle : |x.toRat - signed negative (num / den)| ≤
        |zero.toRat - signed negative (num / den)| := by
      by_cases hsame : zero.units = x.units
      · rw [toRat_eq_zero_iff.mpr units_zero, toRat_eq_zero_iff.mpr (hsame ▸ units_zero)]
      · exact (hnearest zero (.inr units_zero) hsame).elim le_of_lt fun h => h.1.le
    exact .inl ((hle.trans_eq hzero).trans_lt (lt_abs_toRat_sub_signed hother hpos num den))

/-! ### Integers -/

variable {n : Int}

theorem signed_natAbs (n : Int) : signed (decide (n < 0)) n.natAbs = n := by
  rw [Nat.cast_natAbs]
  rcases lt_or_ge n 0 with hneg | hnonneg
  · rw [decide_eq_true hneg, signed_true, abs_of_neg hneg, Int.cast_neg, neg_neg]
  · rw [decide_eq_false hnonneg.not_gt, signed_false, abs_of_nonneg hnonneg]

theorem isNearest_of_ofInt? (h : ofInt? n = some x) : x.IsNearest n := by
  have hnearest := isNearest_of_ofRatio? Nat.one_pos h
  rwa [Nat.cast_one, div_one, signed_natAbs] at hnearest

variable {bits : Nat}

theorem log2_mul_unit_lt (h : num < 2 ^ bits) : Nat.log2 (num * unit) < bits + 1074 := by
  by_cases hzero : num * unit = 0
  · rw [hzero]
    exact Nat.add_pos_right bits (by decide)
  · rw [Nat.log2_lt hzero, pow_add, ← unit_eq]
    exact Nat.mul_lt_mul_of_pos_right h unit_pos

theorem isSome_ofInt? (h : n.natAbs < 2 ^ bits) (hbits : bits ≤ 1000) : (ofInt? n).isSome := by
  refine isSome_ofRatio? _ ?_
  rw [Nat.div_one]
  exact (log2_mul_unit_lt h).trans_le (by omega)

theorem roundDiv_mul (m : Nat) (hden : 0 < den) : roundDiv (m * den) den = m := by
  have hrest : m * den % den = 0 := Nat.mul_mod_left m den
  have hquotient : m * den / den = m := Nat.mul_div_cancel m hden
  rcases roundDiv_cases (m * den) den with h | h | h <;> omega

/-- A multiple of the step between numbers is not rounded. -/
theorem significandOf_mul_of_dvd (h : 2 ^ scaleOf num 1 ∣ num) :
    significandOf num 1 * 2 ^ scaleOf num 1 = num := by
  have hstep : 0 < 2 ^ scaleOf num 1 := Nat.two_pow_pos _
  rw [significandOf, Nat.one_mul]
  generalize 2 ^ scaleOf num 1 = step at h hstep ⊢
  obtain ⟨k, rfl⟩ := h
  rw [Nat.mul_comm step k, roundDiv_mul k hstep, Nat.mul_comm]

/-- An integer with 53 bits before zeros is that of a binary number. -/
theorem exists_toRat_eq (hm : m < 2 ^ 53) (hbits : bits ≤ 900) (hn : n.natAbs = m * 2 ^ bits) :
    ∃ x : Binary64, x.toRat = n := by
  have hlt : n.natAbs < 2 ^ (53 + bits) := by
    rw [hn, pow_add]
    exact Nat.mul_lt_mul_of_pos_right hm (Nat.two_pow_pos bits)
  obtain ⟨x, hx⟩ := Option.isSome_iff_exists.mp (isSome_ofInt? hlt (by omega))
  obtain ⟨hsign, hunits, -⟩ := ofRatio?_eq_some hx
  -- The zeros leave room for the scale, so that nothing is rounded.
  have hscale : scaleOf (n.natAbs * unit) 1 ≤ bits + 1074 := by
    have hlog := log2_mul_unit_lt hlt
    rw [scaleOf, Nat.div_one]
    omega
  have hroom : 2 ^ (bits + 1074) ∣ n.natAbs * unit := by
    rw [pow_add, ← unit_eq, hn]
    exact Nat.mul_dvd_mul_right (Nat.dvd_mul_left _ m) unit
  rw [significandOf_mul_of_dvd ((pow_dvd_pow 2 hscale).trans hroom)] at hunits
  refine ⟨x, ?_⟩
  rw [toRat_of_units_eq hunits, hsign]
  exact signed_natAbs n

end ResponseCheck.Binary64
