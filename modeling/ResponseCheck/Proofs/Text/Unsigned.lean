import ResponseCheck.Text.Unsigned

/-! A number is read back from its decimal digits. -/

namespace ResponseCheck.Text

variable {cs digits : List Char} {n : Nat}

/-- More digits make no smaller number. -/
theorem le_ofDigitChars (digits : List Char) (start : Nat) :
    start ≤ Nat.ofDigitChars 10 digits start := by
  induction digits generalizing start with
  | nil => exact Nat.le_refl start
  | cons c digits ih =>
    rw [Nat.ofDigitChars_cons]
    exact Nat.le_trans (by omega) (ih _)

theorem decimal?_eq_some_iff :
    decimal? digits = some n ↔
      digits ≠ [] ∧ (∀ c ∈ digits, c.isDigit = true) ∧ Nat.ofDigitChars 10 digits 0 = n := by
  have hvalue : digits.foldl (fun n c => n * 10 + (c.toNat - '0'.toNat)) 0 =
      Nat.ofDigitChars 10 digits 0 := by
    rw [Nat.ofDigitChars_eq_foldl]
    simp only [Nat.mul_comm 10]
  rw [decimal?, hvalue]
  by_cases hempty : digits = []
  · simp [hempty]
  · by_cases hall : ∀ c ∈ digits, c.isDigit = true
    · rw [if_neg (by simp [hempty, List.all_eq_true.mpr hall]), Option.some.injEq]
      exact ⟨fun h => ⟨hempty, hall, h⟩, fun h => h.2.2⟩
    · have hsome : digits.all Char.isDigit = false :=
        Bool.eq_false_iff.mpr fun h => hall (List.all_eq_true.mp h)
      simp [hsome, hall]

/-- A number is spelled with digits behind an optional plus sign. -/
theorem unsigned?_eq_some_iff :
    unsigned? cs = some n ↔
      ∃ sign digits, cs = sign ++ digits ∧ (sign = [] ∨ sign = ['+']) ∧ digits ≠ [] ∧
        (∀ c ∈ digits, c.isDigit = true) ∧ Nat.ofDigitChars 10 digits 0 = n := by
  simp only [← decimal?_eq_some_iff]
  unfold unsigned?
  split
  · next digits =>
    constructor
    · intro h
      exact ⟨['+'], digits, rfl, .inr rfl, h⟩
    · rintro ⟨sign, digits', hsplit, rfl | rfl, h⟩
      · -- A plus sign is no digit.
        obtain ⟨-, hdigits, -⟩ := decimal?_eq_some_iff.mp h
        rw [List.nil_append] at hsplit
        exact absurd (hdigits '+' (hsplit ▸ List.mem_cons_self)) (by decide)
      · obtain ⟨-, rfl⟩ := List.cons.inj hsplit
        exact h
  · next hplus =>
    constructor
    · intro h
      exact ⟨[], cs, rfl, .inl rfl, h⟩
    · rintro ⟨sign, digits, rfl, rfl | rfl, h⟩
      · exact h
      · exact absurd rfl (hplus digits)

theorem decimal?_toDigits (n : Nat) : decimal? (Nat.toDigits 10 n) = some n := by
  rw [decimal?_eq_some_iff]
  exact ⟨Nat.toDigits_ne_nil, fun _ => Nat.isDigit_of_mem_toDigits (by decide) (by decide),
    Nat.ofDigitChars_ten_toDigits⟩

theorem unsigned?_of_isDigit {digits : List Char} (h : ∀ c ∈ digits, c.isDigit = true) :
    unsigned? digits = decimal? digits := by
  unfold unsigned?
  split
  · exact absurd (h '+' List.mem_cons_self) (by decide)
  · rfl

/-- The digits of a number stand for it. -/
theorem unsigned?_toDigits (n : Nat) : unsigned? (Nat.toDigits 10 n) = some n := by
  rw [unsigned?_of_isDigit fun _ => Nat.isDigit_of_mem_toDigits (by decide) (by decide),
    decimal?_toDigits]

end ResponseCheck.Text
