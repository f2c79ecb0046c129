import Mathlib.Tactic.IntervalCases
import ResponseCheck.Json.Printer
import ResponseCheck.Json.Reader
import ResponseCheck.Proofs.Text.Utf8

/-!
# Strings are read back

A character of a quoted string is either written as it is, and its bytes are copied, or it is
escaped, and the escape stands for it alone. So a string is read up to the quote that closes it.
-/

namespace ResponseCheck.Json.Reading

open Utf8 (encodeChars)

/-- The bytes that stand for themselves in a string. -/
def IsCopied (b : UInt8) : Prop := b ≠ 0x22 ∧ b ≠ 0x5C ∧ ¬ b < 0x20

/-- What is read up to the closing quote with any fuel that is enough for the input. -/
def ReadsString (s bytes rest : List UInt8) : Prop :=
  ∀ fuel, s.length < fuel → stringBytes fuel s = .ok (bytes, rest)

variable {s bytes rest : List UInt8} {c : Char}

/-! ### One character -/

theorem hexValue?_hexDigit (n : Nat) :
    ∃ b, String.utf8EncodeChar (hexDigit n) = [b] ∧ hexValue? b = some (n % 16) := by
  have hlt : n % 16 < 16 := Nat.mod_lt n (by decide)
  unfold hexDigit
  generalize n % 16 = m at hlt
  interval_cases m <;> exact ⟨_, rfl, rfl⟩

/-- A control character is read from the two digits of its code. -/
theorem escapeSequence_unicode (hc : c.toNat < 0x20) (s : List UInt8) :
    escapeSequence (encodeChars
      ['u', '0', '0', hexDigit (c.toNat / 16), hexDigit c.toNat] ++ s) = .ok (c, s) := by
  obtain ⟨high, hhigh, hhighValue⟩ := hexValue?_hexDigit (c.toNat / 16)
  obtain ⟨low, hlow, hlowValue⟩ := hexValue?_hexDigit c.toNat
  have hbytes : encodeChars ['u', '0', '0', hexDigit (c.toNat / 16), hexDigit c.toNat] =
      [0x75, 0x30, 0x30, high, low] := by
    simp only [Utf8.encodeChars_cons, Utf8.encodeChars_nil, hhigh, hlow]
    rfl
  have hzero : hexValue? 0x30 = some 0 := rfl
  have hcode : ((0 * 16 + 0) * 16 + c.toNat / 16 % 16) * 16 + c.toNat % 16 = c.toNat := by omega
  have hunit : hexUnit (0x30 :: 0x30 :: high :: low :: s) = .ok (c.toNat, s) := by
    simp only [hexUnit, hzero, hhighValue, hlowValue, hcode]
  have hsurrogate : ¬ (0xDC00 ≤ c.toNat ∧ c.toNat ≤ 0xDFFF) := by omega
  have hplain : c.toNat < 0xD800 ∨ 0xDBFF < c.toNat := by omega
  rw [hbytes]
  change hexEscape (0x30 :: 0x30 :: high :: low :: s) = _
  simp only [hexEscape, hunit, bind, Except.bind, if_neg hsurrogate, if_pos hplain, pure,
    Except.pure, Char.ofNat_toNat]

/-- A character is written with an escape that stands for it, or as it is. -/
theorem escape_cases (c : Char) :
    (∃ cs, escape c = '\\' :: cs ∧ ∀ s, escapeSequence (encodeChars cs ++ s) = .ok (c, s)) ∨
      (escape c = [c] ∧ ∀ b ∈ String.utf8EncodeChar c, IsCopied b) := by
  unfold escape
  -- The quote, the backslash, and the control characters that have an escape of two characters.
  iterate 7
    split
    · next h =>
      subst h
      exact .inl ⟨_, rfl, fun _ => rfl⟩
  split
  · next hcontrol => exact .inl ⟨_, rfl, escapeSequence_unicode hcontrol⟩
  · next hquote hbackslash _ _ _ _ _ hcontrol =>
    refine .inr ⟨rfl, fun b hb => ?_⟩
    -- A byte of a longer character is not ASCII at all.
    have hcode : c.toNat ≠ '"'.toNat ∧ c.toNat ≠ '\\'.toNat :=
      ⟨fun h => hquote (Char.toNat_inj.mp h), fun h => hbackslash (Char.toNat_inj.mp h)⟩
    have hbytes : b.toNat ≠ 0x22 ∧ b.toNat ≠ 0x5C ∧ ¬ b.toNat < 0x20 := by
      rcases Utf8.mem_utf8EncodeChar hb with hb | hb
      · rw [hb]
        exact ⟨hcode.1, hcode.2, hcontrol⟩
      · omega
    simpa only [IsCopied, ne_eq, ← UInt8.toNat_inj, UInt8.lt_iff_toNat_lt, UInt8.reduceToNat]
      using hbytes

/-! ### Whole strings -/

theorem readsString_quote (rest : List UInt8) : ReadsString (0x22 :: rest) [] rest := by
  intro fuel hfuel
  cases fuel with
  | zero => exact absurd hfuel (Nat.not_lt_zero _)
  | succ fuel => rfl

theorem ReadsString.copied {b : UInt8} (h : ReadsString s bytes rest) (hb : IsCopied b) :
    ReadsString (b :: s) (b :: bytes) rest := by
  intro fuel hfuel
  obtain ⟨hquote, hbackslash, hcontrol⟩ := hb
  cases fuel with
  | zero => exact absurd hfuel (Nat.not_lt_zero _)
  | succ fuel =>
    have hrest := h fuel (Nat.lt_of_succ_lt_succ hfuel)
    simp [stringBytes, hquote, hbackslash, hcontrol, hrest, bind, Except.bind, pure, Except.pure]

theorem ReadsString.copiedAll {before : List UInt8} (h : ReadsString s bytes rest)
    (hbefore : ∀ b ∈ before, IsCopied b) : ReadsString (before ++ s) (before ++ bytes) rest := by
  induction before with
  | nil => exact h
  | cons b before ih =>
    obtain ⟨hb, hbefore⟩ := List.forall_mem_cons.mp hbefore
    exact (ih hbefore).copied hb

theorem ReadsString.escaped {cs : List Char} (h : ReadsString s bytes rest)
    (hescape : ∀ s, escapeSequence (encodeChars cs ++ s) = .ok (c, s)) :
    ReadsString (0x5C :: (encodeChars cs ++ s)) (String.utf8EncodeChar c ++ bytes) rest := by
  intro fuel hfuel
  cases fuel with
  | zero => exact absurd hfuel (Nat.not_lt_zero _)
  | succ fuel =>
    have hlength : s.length < fuel := by
      rw [List.length_cons, List.length_append] at hfuel
      omega
    have hrest := h fuel hlength
    have hhead := hescape s
    simp [stringBytes, hhead, hrest, bind, Except.bind, pure, Except.pure]

/-- A string is read from its escapes up to the closing quote, character by character. -/
theorem readsString_escape (cs : List Char) (rest : List UInt8) :
    ReadsString (encodeChars (cs.flatMap escape) ++ 0x22 :: rest) (encodeChars cs) rest := by
  -- Any fuel will do, so that it does not matter how many bytes a character takes.
  induction cs with
  | nil => exact readsString_quote rest
  | cons c cs ih =>
    rw [List.flatMap_cons, Utf8.encodeChars_append, Utf8.encodeChars_cons, List.append_assoc]
    rcases escape_cases c with ⟨escaped, hescape, hreads⟩ | ⟨hescape, hcopied⟩
    · have hbackslash : String.utf8EncodeChar '\\' = [0x5C] := by decide
      rw [hescape, Utf8.encodeChars_cons, hbackslash, List.append_assoc]
      exact ih.escaped hreads
    · rw [hescape, Utf8.encodeChars_cons, Utf8.encodeChars_nil, List.append_nil]
      exact ih.copiedAll hcopied

/-- A string is read from its escapes up to the closing quote. -/
theorem string_escape (text : String) (rest : List UInt8) :
    string (encodeChars (text.toList.flatMap escape) ++ 0x22 :: rest) = .ok (text, rest) := by
  have hbytes := readsString_escape text.toList rest _ (Nat.lt_succ_self _)
  have hdecode : Utf8.decode (encodeChars text.toList) = .ok text := Utf8.decode_encode text
  simp only [string, hbytes, hdecode, bind, Except.bind, pure, Except.pure]

end ResponseCheck.Json.Reading
