import ResponseCheck.Proofs.Text.Utf8
import ResponseCheck.Text.Order

/-! Texts are ordered by the code points of their characters. Their bytes are in the same order,
since a character of a smaller code has the smaller first byte, or the same one and then smaller
bits. -/

namespace ResponseCheck

/-- Characters are in the order of their bytes, whatever follows these. -/
theorem Utf8.utf8EncodeChar_append_lt {c d : Char} (h : c.toNat < d.toNat) (s t : List UInt8) :
    String.utf8EncodeChar c ++ s < String.utf8EncodeChar d ++ t := by
  have hd : d.toNat < 0x110000 := by
    have hvalid : d.toNat < 0xD800 ∨ 0xDFFF < d.toNat ∧ d.toNat < 0x110000 := d.valid
    omega
  unfold String.utf8EncodeChar
  simp only [Char.toNat_val]
  generalize c.toNat = m at *
  generalize d.toNat = n at *
  have hbyte {k : Nat} (hk : k < 256) : (UInt8.ofNat k).toNat = k := UInt8.toNat_ofNat_of_lt' hk
  have hlead {k : Nat} (hk : k < 0x110000) : k / 262144 % 8 = k / 262144 := by omega
  -- Six bits at a time: the first bytes that differ are in the order of the codes.
  have hlast : m / 64 < n / 64 ∨ m / 64 = n / 64 := by omega
  have hthird : m / 4096 < n / 4096 ∨ m / 4096 = n / 4096 := by omega
  have hsecond : m / 262144 < n / 262144 ∨ m / 262144 = n / 262144 := by omega
  repeat' split
  all_goals
    simp (disch := omega) only [List.cons_append, List.nil_append, List.cons_lt_cons_iff,
      UInt8.lt_iff_toNat_lt, ← UInt8.toNat_inj, hbyte, hlead]
    omega

namespace Text

open Utf8 (encodeChars)

theorem charsPrecede_iff_encodeChars_lt (cs ds : List Char) :
    charsPrecede cs ds = true ↔ encodeChars cs < encodeChars ds := by
  induction ds generalizing cs with
  | nil => simp [charsPrecede]
  | cons d ds ih =>
    cases cs with
    | nil =>
      cases hbytes : encodeChars (d :: ds) with
      | nil => simp [String.utf8EncodeChar_ne_nil] at hbytes
      | cons b bytes => simp [charsPrecede]
    | cons c cs =>
      rw [charsPrecede, Bool.or_eq_true, decide_eq_true_eq, Bool.and_eq_true, beq_iff_eq, ih,
        Utf8.encodeChars_cons, Utf8.encodeChars_cons]
      rcases Nat.lt_trichotomy c.toNat d.toNat with hlt | heq | hgt
      · simp [hlt, Utf8.utf8EncodeChar_append_lt hlt]
      · obtain rfl : c = d := Char.toNat_inj.mp heq
        have hsame {s t : List UInt8} (front : List UInt8) : front ++ s < front ++ t ↔ s < t := by
          induction front with
          | nil => rfl
          | cons b front ihfront => simp [ihfront]
        simp [hsame]
      · have hnot := List.lt_asymm (Utf8.utf8EncodeChar_append_lt hgt (encodeChars ds)
          (encodeChars cs))
        have hne : c ≠ d := fun heq => absurd (heq ▸ hgt) (Nat.lt_irrefl _)
        simp [hnot, hne, Nat.not_lt_of_gt hgt]

/-- Texts are in the order of their bytes. -/
theorem precedes_iff_encode_lt {a b : String} :
    precedes a b = true ↔ Utf8.encode a < Utf8.encode b :=
  charsPrecede_iff_encodeChars_lt a.toList b.toList

end Text

end ResponseCheck
