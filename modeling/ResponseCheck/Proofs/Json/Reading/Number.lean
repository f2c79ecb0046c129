import Mathlib.Tactic.IntervalCases
import ResponseCheck.Json.Printer
import ResponseCheck.Json.Reader
import ResponseCheck.Proofs.Text.Unsigned
import ResponseCheck.Proofs.Text.Utf8

/-!
# Integers are read back

The digits of an integer that fits 64 bits are gathered one by one without leaving the word, and
what stands behind a number in a document does not go on with it.
-/

namespace ResponseCheck.Json.Reading

open Utf8 (encodeChars)

/-- Whether bytes do not go on with a number that stands in front of them. -/
def Follows (rest : List UInt8) : Prop :=
  ∀ b ∈ rest.head?, isDigit b = false ∧ b ≠ 0x2E ∧ isExponentMark b = false

theorem follows_nil : Follows [] := nofun

theorem follows_cons {b : UInt8} {rest : List UInt8} (hdigit : isDigit b = false)
    (hpoint : b ≠ 0x2E) (hmark : isExponentMark b = false) : Follows (b :: rest) := by
  intro c hc
  obtain rfl : b = c := by simpa using hc
  exact ⟨hdigit, hpoint, hmark⟩

variable {source : Source} {negative : Bool} {rest : List UInt8} {n : Nat}

/-- A decimal digit is one byte, which stands for the same number. -/
theorem exists_byte_of_isDigit {c : Char} (hc : c.isDigit = true) :
    ∃ b, String.utf8EncodeChar c = [b] ∧ isDigit b = true ∧
      digitValue b = c.toNat - '0'.toNat ∧ (b = 0x30 ↔ c = '0') := by
  obtain ⟨hlow, hhigh⟩ : 48 ≤ c.toNat ∧ c.toNat ≤ 57 := by
    simpa [Char.isDigit, UInt32.le_iff_toNat_le] using hc
  have hbyte : (UInt8.ofNat c.toNat).toNat = c.toNat :=
    UInt8.toNat_ofNat_of_lt' (show c.toNat < 256 by omega)
  refine ⟨UInt8.ofNat c.toNat, Utf8.utf8EncodeChar_of_lt (by omega), ?_, ?_, ?_⟩
  · simp only [isDigit, Bool.and_eq_true, decide_eq_true_eq, UInt8.le_iff_toNat_le, hbyte]
    exact ⟨hlow, hhigh⟩
  · rw [digitValue, hbyte]
    rfl
  · rw [← UInt8.toNat_inj, hbyte, ← Char.toNat_inj]
    rfl

theorem exists_byte_of_toDigits (n : Nat) :
    ∃ b s, encodeChars (Nat.toDigits 10 n) = b :: s ∧ isDigit b = true := by
  cases hds : Nat.toDigits 10 n with
  | nil => exact absurd hds Nat.toDigits_ne_nil
  | cons d ds =>
    have hd : d.isDigit = true :=
      Nat.isDigit_of_mem_toDigits (by decide) (by decide) (hds ▸ List.mem_cons_self)
    obtain ⟨b, hbytes, hdigit, -⟩ := exists_byte_of_isDigit hd
    exact ⟨b, encodeChars ds, by rw [Utf8.encodeChars_cons, hbytes, List.singleton_append], hdigit⟩

theorem afterInteger_of_follows (hrest : Follows rest) :
    afterInteger source negative n rest = whole source negative n rest := by
  cases rest with
  | nil => rfl
  | cons b rest =>
    obtain ⟨-, hpoint, hmark⟩ := hrest b rfl
    simp [afterInteger, hpoint, hmark]

/-- Digits are gathered while the word holds them, up to what follows the number. -/
theorem integerDigits_append {ds : List Char} {acc : Nat} (hds : ∀ d ∈ ds, d.isDigit = true)
    (hfits : Nat.ofDigitChars 10 ds acc ≤ maxWord) (hrest : Follows rest) :
    integerDigits source negative acc (encodeChars ds ++ rest) =
      whole source negative (Nat.ofDigitChars 10 ds acc) rest := by
  -- On the digits: the number so far is never greater than the whole one, which fits.
  induction ds generalizing acc with
  | nil =>
    rw [← afterInteger_of_follows hrest]
    cases rest with
    | nil => rfl
    | cons b rest =>
      obtain ⟨hdigit, -⟩ := hrest b rfl
      simp [integerDigits, hdigit]
  | cons d ds ih =>
    obtain ⟨hd, hds⟩ := List.forall_mem_cons.mp hds
    obtain ⟨b, hbytes, hdigit, hvalue, -⟩ := exists_byte_of_isDigit hd
    rw [Nat.ofDigitChars_cons] at hfits ⊢
    have hnext : acc * 10 + digitValue b = 10 * acc + (d.toNat - '0'.toNat) := by
      rw [hvalue, Nat.mul_comm]
    have hword : ¬ maxWord < 10 * acc + (d.toNat - '0'.toNat) :=
      Nat.not_lt.mpr (Nat.le_trans (Text.le_ofDigitChars ds _) hfits)
    rw [Utf8.encodeChars_cons, hbytes, List.append_assoc, List.singleton_append, integerDigits,
      if_pos hdigit, hnext, if_neg hword, ih hds hfits]

/-- A positive number does not start with a zero. -/
theorem head?_toDigits_ne_zero (hn : 0 < n) : (Nat.toDigits 10 n).head? ≠ some '0' := by
  -- The first digit is that of the number without its last one, unless it is the last one.
  induction n using Nat.strongRecOn with
  | ind n ih =>
    by_cases hsmall : n < 10
    · rw [Nat.toDigits_of_lt_base hsmall]
      interval_cases n <;> decide
    · have hfirst := ih (n / 10) (by omega) (by omega)
      rw [Nat.toDigits_of_base_le (by decide) (by omega), List.head?_append]
      cases hdigits : Nat.toDigits 10 (n / 10) with
      | nil => exact absurd hdigits Nat.toDigits_ne_nil
      | cons d ds => simpa [hdigits] using hfirst

theorem number_cons {b : UInt8} {s : List UInt8} (hzero : b ≠ 0x30) (hdigit : isDigit b = true) :
    number source negative (b :: s) = integerDigits source negative (digitValue b) s := by
  simp [number, hzero, hdigit]

/-- A number after its sign is read from its digits. -/
theorem number_toDigits (hfits : n ≤ maxWord) (hrest : Follows rest) :
    number source negative (encodeChars (Nat.toDigits 10 n) ++ rest) =
      whole source negative n rest := by
  have hdigits : ∀ d ∈ Nat.toDigits 10 n, d.isDigit = true := fun _ =>
    Nat.isDigit_of_mem_toDigits (by decide) (by decide)
  have hvalue : Nat.ofDigitChars 10 (Nat.toDigits 10 n) 0 = n :=
    Nat.ofDigitChars_toDigits (by decide) (by decide)
  by_cases hzero : n = 0
  · subst hzero
    rw [← afterInteger_of_follows hrest]
    cases rest with
    | nil => rfl
    | cons b rest =>
      -- A zero is a number of its own, with no digit behind it.
      obtain ⟨hdigit, -⟩ := hrest b rfl
      have hbytes : encodeChars (Nat.toDigits 10 0) = [0x30] := by decide
      rw [hbytes, List.singleton_append]
      simp [number, hdigit]
  · have hfirst := head?_toDigits_ne_zero (Nat.pos_of_ne_zero hzero)
    cases hds : Nat.toDigits 10 n with
    | nil => exact absurd hds Nat.toDigits_ne_nil
    | cons d ds =>
      rw [hds] at hdigits hvalue hfirst
      obtain ⟨hd, hds⟩ := List.forall_mem_cons.mp hdigits
      obtain ⟨b, hbytes, hdigit, hbvalue, hbzero⟩ := exists_byte_of_isDigit hd
      have hnonzero : b ≠ 0x30 := fun hb => hfirst (by rw [hbzero.mp hb, List.head?_cons])
      rw [Nat.ofDigitChars_cons, Nat.mul_zero, Nat.zero_add, ← hbvalue] at hvalue
      have hword : Nat.ofDigitChars 10 ds (digitValue b) ≤ maxWord := by rwa [hvalue]
      rw [Utf8.encodeChars_cons, hbytes, List.append_assoc, List.singleton_append,
        number_cons hnonzero hdigit, integerDigits_append hds hword hrest, hvalue]

end ResponseCheck.Json.Reading
