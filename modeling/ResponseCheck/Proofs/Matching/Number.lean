import ResponseCheck.Proofs.Json.Equality
import ResponseCheck.Proofs.Matching.Value
import ResponseCheck.Proofs.Number.Rounding

/-!
# Which numbers match

A number is written as an integer or as a binary number, and stands for a rational number either
way. Numbers that are written alike match when they stand for the same one. An integer matches the
binary number that it is rounded to, which is another rational number if it has too many bits; then
integers that differ match the same binary number.
-/

namespace ResponseCheck

namespace Json.Number

/-- The rational number that a number stands for. -/
def toRat : Number → ℚ
  | .int n => n
  | .float x => x.toRat

/-- Where one number is expected, the other one matches. -/
def Accepts (expected actual : Number) : Prop :=
  Predicate.value.check (.num expected) (.num actual) = .ok ()

/-- An integer, and the binary number that it is rounded to. -/
inductive RoundsTo : Number → Number → Prop
  | nearest {i : Int} {x : Binary64} (h : x.IsNearest i) : RoundsTo (.int i) (.float x)

/-- The numbers that are those of a binary number. -/
def IsBinary (n : Number) : Prop := ∃ x : Binary64, x.toRat = n.toRat

variable {m n k : Number} {i j : Int} {x y : Binary64}

theorem isBinary_of_natAbs_le (h : i.natAbs ≤ 2 ^ 53) : IsBinary (.int i) := by
  rcases Nat.lt_or_eq_of_le h with hlt | heq
  · exact Binary64.exists_toRat_eq hlt (Nat.zero_le _) (Nat.mul_one _).symm
  · have hone : (1 : Nat) < 2 ^ 53 := by decide
    exact Binary64.exists_toRat_eq hone (by decide) (heq.trans (Nat.one_mul _).symm)

theorem RoundsTo.toRat_eq (h : m.RoundsTo n) (hm : m.IsBinary) : m.toRat = n.toRat := by
  obtain ⟨hnearest⟩ := h
  obtain ⟨x, hx⟩ := hm
  rw [← hx]
  exact (hx ▸ x.isNearest_toRat).toRat_eq hnearest

/-! ### Pairs of notations -/

theorem accepts_iff_eqv : m.Accepts n ↔ m.eqv n = true := by
  rw [Accepts, Predicate.check, Except.mapError_eq_ok_iff, matchValue_num, Except.ite_eq_ok_iff]

theorem accepts_self (n : Number) : n.Accepts n := accepts_iff_eqv.mpr n.eqv_self

theorem accepts_comm : m.Accepts n ↔ n.Accepts m := by
  rw [accepts_iff_eqv, accepts_iff_eqv, eqv_comm]

theorem accepts_int_int_iff : Accepts (.int i) (.int j) ↔ i = j :=
  accepts_iff_eqv.trans beq_iff_eq

theorem accepts_float_float_iff : Accepts (.float x) (.float y) ↔ x.toRat = y.toRat :=
  accepts_iff_eqv.trans Binary64.eqv_iff

/-- Integers of 64 bits are rounded to a binary number. -/
theorem exists_ofInt?_eq (h : Fits (.int i)) : ∃ x, Binary64.ofInt? i = some x := by
  have hbits : i.natAbs < 2 ^ 64 := by
    obtain ⟨hlow, hhigh⟩ := h
    omega
  exact Option.isSome_iff_exists.mp (Binary64.isSome_ofInt? hbits (by decide))

/-- An integer matches the binary numbers that it is rounded to. -/
theorem accepts_int_float_iff (h : Fits (.int i)) :
    Accepts (.int i) (.float y) ↔ y.IsNearest i := by
  obtain ⟨x, hx⟩ := exists_ofInt?_eq h
  have hnearest := Binary64.isNearest_of_ofInt? hx
  rw [accepts_iff_eqv, eqv_float, toBinary?, hx, Option.any_some, Binary64.eqv_iff]
  exact ⟨hnearest.of_toRat_eq, hnearest.toRat_eq⟩

theorem accepts_float_int_iff (h : Fits (.int i)) :
    Accepts (.float x) (.int i) ↔ x.IsNearest i :=
  accepts_comm.trans (accepts_int_float_iff h)

/-! ### Equality and rounding -/

theorem roundsTo_int_float_iff : RoundsTo (.int i) (.float x) ↔ x.IsNearest i :=
  ⟨fun | .nearest h => h, .nearest⟩

theorem not_roundsTo_int : ¬ m.RoundsTo (.int i) := nofun

theorem not_float_roundsTo : ¬ RoundsTo (.float x) n := nofun

/-- Numbers match when they are equal, or when one of them is rounded to the other one. -/
theorem accepts_iff (hm : m.Fits) (hn : n.Fits) :
    m.Accepts n ↔ m.toRat = n.toRat ∨ m.RoundsTo n ∨ n.RoundsTo m := by
  -- An equal number is also the nearest one, so that it says nothing new about mixed pairs.
  have hequal {i : Int} {x : Binary64} (h : (i : ℚ) = x.toRat) : x.IsNearest i :=
    h ▸ x.isNearest_toRat
  cases m with
  | int i =>
    cases n with
    | int j =>
      rw [accepts_int_int_iff, toRat, toRat, Int.cast_inj]
      simp [not_roundsTo_int]
    | float y =>
      rw [accepts_int_float_iff hm, roundsTo_int_float_iff, or_iff_left not_float_roundsTo]
      exact (or_iff_right_of_imp hequal).symm
  | float x =>
    cases n with
    | int j =>
      rw [accepts_float_int_iff hn, roundsTo_int_float_iff, or_iff_right not_float_roundsTo]
      exact (or_iff_right_of_imp fun h => hequal h.symm).symm
    | float y =>
      rw [accepts_float_float_iff, toRat, toRat]
      simp [not_float_roundsTo]

/-- What matches the same number matches, unless two integers are rounded to it. -/
theorem Accepts.trans (hm : m.Fits) (hn : n.Fits) (hk : k.Fits) (h : m.Accepts n)
    (h' : n.Accepts k) :
    m.Accepts k ∨ (m.RoundsTo n ∧ k.RoundsTo n ∧ m.toRat ≠ k.toRat) := by
  cases n with
  | int j =>
    -- The number in the middle is not rounded itself, so it passes on what it is rounded to.
    left
    cases m with
    | int i => exact accepts_int_int_iff.mp h ▸ h'
    | float x =>
      cases k with
      | int l => exact accepts_int_int_iff.mp h' ▸ h
      | float z =>
        rw [accepts_float_float_iff]
        exact ((accepts_float_int_iff hn).mp h).toRat_eq ((accepts_int_float_iff hn).mp h')
  | float y =>
    cases m with
    | int i =>
      rw [accepts_int_float_iff hm] at h
      cases k with
      | int l =>
        rw [accepts_float_int_iff hk] at h'
        by_cases hsame : i = l
        · exact .inl (accepts_int_int_iff.mpr hsame)
        · exact .inr ⟨.nearest h, .nearest h', fun heq => hsame (Int.cast_inj.mp heq)⟩
      | float z =>
        rw [accepts_float_float_iff] at h'
        exact .inl ((accepts_int_float_iff hm).mpr (h.of_toRat_eq h'))
    | float x =>
      rw [accepts_float_float_iff] at h
      cases k with
      | int l =>
        rw [accepts_float_int_iff hk] at h'
        exact .inl ((accepts_float_int_iff hk).mpr (h'.of_toRat_eq h.symm))
      | float z =>
        rw [accepts_float_float_iff] at h'
        exact .inl (accepts_float_float_iff.mpr (h.trans h'))

end Json.Number

open Json (Number)

/-- **Numbers match up to rounding.** Of two numbers, one matches the other if they stand for the
same rational number, and also if one is an integer and the other one the binary number that it is
rounded to. So two integers or two binary numbers match only if they are equal, and so do numbers
that need not be rounded; integers up to `2 ^ 53` are such. Matching is reflexive and symmetric; it
is transitive, but for integers that differ and are rounded to the same binary number. -/
theorem numbers_match_up_to_rounding {m n : Number} (hm : m.Fits) (hn : n.Fits) :
    (m.Accepts n ↔ m.toRat = n.toRat ∨ m.RoundsTo n ∨ n.RoundsTo m) ∧
    (m.IsBinary → n.IsBinary → (m.Accepts n ↔ m.toRat = n.toRat)) ∧
    (∀ i : Int, i.natAbs ≤ 2 ^ 53 → Number.IsBinary (.int i)) ∧
    m.Accepts m ∧ (m.Accepts n ↔ n.Accepts m) ∧
    ∀ k : Number, k.Fits → m.Accepts n → n.Accepts k →
      m.Accepts k ∨ (m.RoundsTo n ∧ k.RoundsTo n ∧ m.toRat ≠ k.toRat) := by
  refine ⟨Number.accepts_iff hm hn, fun hbinary hbinary' => ?_,
    fun i => Number.isBinary_of_natAbs_le, m.accepts_self, Number.accepts_comm,
    fun k hk => Number.Accepts.trans hm hn hk⟩
  rw [Number.accepts_iff hm hn, or_iff_left_of_imp]
  rintro (hrounds | hrounds)
  · exact hrounds.toRat_eq hbinary
  · exact (hrounds.toRat_eq hbinary').symm

/-- The binary number `2 ^ 53` is also what the next integer is rounded to. -/
theorem numbers_match_up_to_rounding_of_neighbours :
    let next : Number := .int 9007199254740993
    let binary : Number := .float ⟨false, ⟨1076, by decide⟩, ⟨0, by decide⟩⟩
    let power : Number := .int 9007199254740992
    next.Fits ∧ binary.Fits ∧ power.Fits ∧ power.IsBinary ∧ next.Accepts binary ∧
      binary.Accepts power ∧ ¬ next.Accepts power ∧ next.RoundsTo binary ∧
      power.RoundsTo binary ∧ next.toRat ≠ power.toRat := by
  intro next binary power
  have hnext : next.Fits := ⟨by decide, by decide⟩
  have hbinary : binary.Fits := trivial
  have hpower : power.Fits := ⟨by decide, by decide⟩
  have hfirst : next.Accepts binary := Number.accepts_iff_eqv.mpr (by decide +kernel)
  have hsecond : binary.Accepts power := Number.accepts_iff_eqv.mpr (by decide +kernel)
  have hapart : ¬ next.Accepts power := fun h =>
    absurd (Number.accepts_int_int_iff.mp h) (by decide)
  obtain ⟨-, -, hsmall, -, -, htrans⟩ := numbers_match_up_to_rounding hnext hbinary
  obtain h | ⟨hrounds, hrounds', hne⟩ := htrans power hpower hfirst hsecond
  · exact absurd h hapart
  · exact ⟨hnext, hbinary, hpower, hsmall _ (by decide), hfirst, hsecond, hapart, hrounds, hrounds',
      hne⟩

/-- An integer above `2 ^ 53` matches the binary number `2 ^ 53`, which is another rational number;
and though `2 ^ 53` as an integer matches that one too, the two integers do not match. -/
theorem unequal_numbers_match :
    let next : Number := .int 9007199254740993
    let binary : Number := .float ⟨false, ⟨1076, by decide⟩, ⟨0, by decide⟩⟩
    let power : Number := .int 9007199254740992
    next.Fits ∧ binary.Fits ∧ next.Accepts binary ∧ next.toRat ≠ binary.toRat ∧
      power.Fits ∧ binary.Accepts power ∧ ¬ next.Accepts power := by
  intro next binary power
  have hunits : (⟨false, ⟨1076, by decide⟩, ⟨0, by decide⟩⟩ : Binary64).units =
      9007199254740992 * Binary64.unit := by decide +kernel
  have hbinary : binary.toRat = (9007199254740992 : Nat) := Binary64.toRat_of_units_eq hunits
  have hne : next.toRat ≠ binary.toRat := by
    rw [hbinary, Number.toRat]
    norm_num
  exact ⟨⟨by decide, by decide⟩, trivial, Number.accepts_iff_eqv.mpr (by decide +kernel), hne,
    ⟨by decide, by decide⟩, Number.accepts_iff_eqv.mpr (by decide +kernel),
    fun h => absurd (Number.accepts_int_int_iff.mp h) (by decide)⟩

end ResponseCheck
