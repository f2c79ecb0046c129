import Mathlib.Data.Nat.Digits.Defs
import ResponseCheck.Proofs.Text.Unsigned

/-!
# Numerals of any length

A numeral stands for a number however many digits it has. To read it into a word of a fixed size one
stops where the number no longer fits; where the word is large enough for all indices of a list,
this makes no difference for the item that is found.
-/

namespace ResponseCheck.Text

variable {cs digits : List Char} {text : String} {n bits : Nat}

/-- Whether a text stands for a number: decimal digits, at least one, behind an optional plus sign.
Each digit counts ten times the one behind it, and zeros may come first. -/
def IsNumeral (text : String) (n : Nat) : Prop :=
  ∃ sign digits, text.toList = sign ++ digits ∧ (sign = [] ∨ sign = ['+']) ∧ digits ≠ [] ∧
    (∀ c ∈ digits, c.isDigit = true) ∧
    Nat.ofDigits 10 (digits.reverse.map fun c => c.toNat - '0'.toNat) = n

theorem ofDigitChars_eq_ofDigits (digits : List Char) :
    Nat.ofDigitChars 10 digits 0 =
      Nat.ofDigits 10 (digits.reverse.map fun c => c.toNat - '0'.toNat) := by
  induction digits with
  | nil => rfl
  | cons c digits ih =>
    rw [Nat.ofDigitChars_cons, Nat.ofDigitChars_eq_ofDigitChars_zero, ih, List.reverse_cons,
      List.map_append, Nat.ofDigits_append]
    simp [Nat.add_comm]

theorem unsigned?_eq_some_iff_isNumeral : unsigned? text.toList = some n ↔ IsNumeral text n := by
  rw [unsigned?_eq_some_iff]
  simp only [IsNumeral, ofDigitChars_eq_ofDigits]

/-! ### Words -/

/-- A word with one more digit behind it, if the number still fits. -/
def pushDigit? (word : BitVec bits) (c : Char) : Option (BitVec bits) :=
  if h : c.isDigit = true ∧ 10 * word.toNat + (c.toNat - '0'.toNat) < 2 ^ bits then
    some (.ofNatLT _ h.2)
  else none

/-- The word of so many bits that decimal digits stand for; there must be at least one. -/
def digitsWord? (bits : Nat) (digits : List Char) : Option (BitVec bits) :=
  if digits.isEmpty then none else digits.foldlM pushDigit? 0

/-- The word of so many bits that decimal digits after an optional plus sign stand for. -/
def word? (bits : Nat) : List Char → Option (BitVec bits)
  | '+' :: digits => digitsWord? bits digits
  | digits => digitsWord? bits digits

theorem pushDigit?_eq_some_iff {word longer : BitVec bits} {c : Char} :
    pushDigit? word c = some longer ↔
      c.isDigit = true ∧ 10 * word.toNat + (c.toNat - '0'.toNat) = longer.toNat := by
  unfold pushDigit?
  split
  · next h =>
    rw [Option.some.injEq, ← BitVec.toNat_inj, BitVec.toNat_ofNatLT]
    exact (and_iff_right h.1).symm
  · next h =>
    refine iff_of_false nofun fun ⟨hdigit, hlonger⟩ => h ⟨hdigit, ?_⟩
    rw [hlonger]
    exact longer.isLt

/-- Digits go into a word if the number that they end up with does. -/
theorem foldlM_pushDigit?_eq_some_iff {start word : BitVec bits} :
    digits.foldlM pushDigit? start = some word ↔
      (∀ c ∈ digits, c.isDigit = true) ∧
        Nat.ofDigitChars 10 digits start.toNat = word.toNat := by
  -- On the digits: the number so far is never greater than the whole one, so it fits with it.
  induction digits generalizing start with
  | nil => simp [BitVec.toNat_inj]
  | cons c digits ih =>
    rw [List.foldlM_cons, Option.bind_eq_bind, Option.bind_eq_some_iff, List.forall_mem_cons,
      Nat.ofDigitChars_cons]
    simp only [pushDigit?_eq_some_iff, ih]
    constructor
    · rintro ⟨longer, ⟨hdigit, hlonger⟩, hdigits, hword⟩
      exact ⟨⟨hdigit, hdigits⟩, hlonger ▸ hword⟩
    · rintro ⟨⟨hdigit, hdigits⟩, hword⟩
      have hfits : 10 * start.toNat + (c.toNat - '0'.toNat) < 2 ^ bits :=
        (le_ofDigitChars digits _).trans_lt (hword ▸ word.isLt)
      exact ⟨.ofNatLT _ hfits, ⟨hdigit, (BitVec.toNat_ofNatLT ..).symm⟩, hdigits, hword⟩

theorem digitsWord?_eq_some_iff {word : BitVec bits} :
    digitsWord? bits digits = some word ↔ decimal? digits = some word.toNat := by
  rw [decimal?_eq_some_iff, digitsWord?]
  by_cases hempty : digits = []
  · simp [hempty]
  · simp [hempty, foldlM_pushDigit?_eq_some_iff]

/-- A word is read where the number fits, and is that number. -/
theorem word?_eq_some_iff {word : BitVec bits} :
    word? bits cs = some word ↔ unsigned? cs = some word.toNat := by
  unfold word?
  split
  · exact digitsWord?_eq_some_iff
  · next hplus =>
    rw [unsigned?]
    · exact digitsWord?_eq_some_iff
    · exact hplus

/-- A word that is large enough for the indices of a list finds what the number finds. -/
theorem word?_bind_getElem? {α : Type*} {items : List α} (hlength : items.length ≤ 2 ^ bits) :
    (word? bits cs).bind (items[·.toNat]?) = (unsigned? cs).bind (items[·]?) := by
  ext item
  simp only [Option.bind_eq_some_iff, word?_eq_some_iff]
  constructor
  · rintro ⟨word, hword, hitem⟩
    exact ⟨word.toNat, hword, hitem⟩
  · rintro ⟨n, hn, hitem⟩
    obtain ⟨hlt, -⟩ := List.getElem?_eq_some_iff.mp hitem
    exact ⟨.ofNatLT n (hlt.trans_le hlength), hn, hitem⟩

end ResponseCheck.Text
