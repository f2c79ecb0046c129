import ResponseCheck.Text.Utf8

/-!
# Encoding and decoding

A text is read back from its bytes: each piece of them is a character of the text.
-/

namespace ResponseCheck.Utf8

variable {a b c d : UInt8} {s : List UInt8}

/-! ### Bytes as numbers -/

theorem isTail_iff : isTail b = true ↔ 0x80 ≤ b.toNat ∧ b.toNat ≤ 0xBF := by
  simp [isTail, UInt8.le_iff_toNat_le]

theorem isSecond_of_isTail (hb : isTail b = true) (hE0 : a.toNat = 0xE0 → 0xA0 ≤ b.toNat)
    (hED : a.toNat = 0xED → b.toNat ≤ 0x9F) (hF0 : a.toNat = 0xF0 → 0x90 ≤ b.toNat)
    (hF4 : a.toNat = 0xF4 → b.toNat ≤ 0x8F) : isSecond a b = true := by
  obtain ⟨hlow, hhigh⟩ := isTail_iff.mp hb
  simp only [isSecond, beq_iff_eq, ← UInt8.toNat_inj, UInt8.reduceToNat]
  repeat' split
  all_goals simp_all [UInt8.le_iff_toNat_le]

/-- The first byte of a character of two to four bytes. -/
theorem isLead (hlow : 0xC2 ≤ a.toNat) (hhigh : a.toNat ≤ 0xF4) :
    ¬ a < 0x80 ∧ (a < 0xC2 || 0xF4 < a) = false := by
  simp only [UInt8.lt_iff_toNat_lt, UInt8.reduceToNat, Bool.or_eq_false_iff,
    decide_eq_false_iff_not]
  omega

/-! ### Pieces that are characters -/

theorem pieces_one (ha : a.toNat < 0x80) :
    pieces (a :: s) = .char (Char.ofNat a.toNat) :: pieces s := by
  rw [pieces.eq_def]
  simp [UInt8.lt_iff_toNat_lt, ha]

theorem pieces_two (hlow : 0xC2 ≤ a.toNat) (hhigh : a.toNat < 0xE0) (hb : isTail b = true) :
    pieces (a :: b :: s) = .char (Char.ofNat ((a.toNat - 0xC0) * 64 + payload b)) :: pieces s := by
  obtain ⟨hascii, hlead⟩ := isLead hlow (by omega)
  have hsecond : isSecond a b = true :=
    isSecond_of_isTail hb (by omega) (by omega) (by omega) (by omega)
  have htwo : a < 0xE0 := UInt8.lt_iff_toNat_lt.mpr hhigh
  rw [pieces.eq_def]
  simp [hascii, hlead, hsecond, htwo]

theorem pieces_three (hlow : 0xE0 ≤ a.toNat) (hhigh : a.toNat < 0xF0) (hb : isSecond a b = true)
    (hc : isTail c = true) :
    pieces (a :: b :: c :: s) =
      .char (Char.ofNat ((a.toNat - 0xE0) * 4096 + payload b * 64 + payload c)) :: pieces s := by
  obtain ⟨hascii, hlead⟩ := isLead (show 0xC2 ≤ a.toNat by omega) (by omega)
  have htwo : ¬ a < 0xE0 := by simpa [UInt8.lt_iff_toNat_lt] using hlow
  have hthree : a < 0xF0 := UInt8.lt_iff_toNat_lt.mpr hhigh
  rw [pieces.eq_def]
  simp [hascii, hlead, hb, htwo, hc, hthree]

theorem pieces_four (hlow : 0xF0 ≤ a.toNat) (hhigh : a.toNat ≤ 0xF4) (hb : isSecond a b = true)
    (hc : isTail c = true) (hd : isTail d = true) :
    pieces (a :: b :: c :: d :: s) =
      .char (Char.ofNat ((a.toNat - 0xF0) * 262144 + payload b * 4096 + payload c * 64
        + payload d)) :: pieces s := by
  obtain ⟨hascii, hlead⟩ := isLead (show 0xC2 ≤ a.toNat by omega) hhigh
  have hthree : ¬ a < 0xF0 := by simpa [UInt8.lt_iff_toNat_lt] using hlow
  have htwo : ¬ a < 0xE0 := by
    simp only [UInt8.lt_iff_toNat_lt, UInt8.reduceToNat]
    omega
  rw [pieces.eq_def]
  simp [hascii, hlead, hb, htwo, hc, hthree, hd]

/-! ### Bytes of characters

A byte of a character is a mark with some bits of the code added to it: the marks of the bytes that
follow the first one are all `0x80`, and they are followed by six bits. -/

theorem toNat_tailByte (n : Nat) : (UInt8.ofNat (n % 64 + 128)).toNat = n % 64 + 128 :=
  UInt8.toNat_ofNat_of_lt' (show n % 64 + 128 < 0x100 by omega)

theorem isTail_tailByte (n : Nat) : isTail (UInt8.ofNat (n % 64 + 128)) = true := by
  have hbyte := toNat_tailByte n
  exact isTail_iff.mpr ⟨by omega, by omega⟩

theorem payload_tailByte (n : Nat) : payload (UInt8.ofNat (n % 64 + 128)) = n % 64 := by
  have hbyte := toNat_tailByte n
  unfold payload
  omega

/-- The bytes of a character are its code, if it is ASCII, and otherwise no ASCII. -/
theorem mem_utf8EncodeChar {c : Char} (hb : b ∈ String.utf8EncodeChar c) :
    b.toNat = c.toNat ∨ 0x80 ≤ b.toNat := by
  have hmark {n mark : Nat} (h : n + mark < 0x100) (hlow : 0x80 ≤ mark) :
      0x80 ≤ (UInt8.ofNat (n + mark)).toNat := by
    rw [UInt8.toNat_ofNat_of_lt' h]
    exact Nat.le_trans hlow (Nat.le_add_left ..)
  unfold String.utf8EncodeChar at hb
  simp only [Char.toNat_val] at hb
  split at hb
  · next hsize =>
    obtain rfl := List.mem_singleton.mp hb
    exact .inl (UInt8.toNat_ofNat_of_lt' (show c.toNat < 0x100 by omega))
  · right
    split at hb
    · simp only [List.mem_cons, List.not_mem_nil, or_false] at hb
      rcases hb with rfl | rfl <;> exact hmark (by omega) (by decide)
    · split at hb
      · simp only [List.mem_cons, List.not_mem_nil, or_false] at hb
        rcases hb with rfl | rfl | rfl <;> exact hmark (by omega) (by decide)
      · simp only [List.mem_cons, List.not_mem_nil, or_false] at hb
        rcases hb with rfl | rfl | rfl | rfl <;> exact hmark (by omega) (by decide)

/-- The bytes of a character are one piece, whatever follows them. -/
theorem pieces_utf8EncodeChar_append (c : Char) (s : List UInt8) :
    pieces (String.utf8EncodeChar c ++ s) = .char c :: pieces s := by
  -- The bounds on second bytes hold since surrogates and larger codes are no characters.
  have hvalid : c.toNat < 0xD800 ∨ 0xDFFF < c.toNat ∧ c.toNat < 0x110000 := c.valid
  have hchar {n : Nat} (h : n = c.toNat) : Char.ofNat n = c := h ▸ Char.ofNat_toNat c
  unfold String.utf8EncodeChar
  simp only [Char.toNat_val]
  split
  · next hsize =>
    have hlead := UInt8.toNat_ofNat_of_lt' (show c.toNat < 0x100 by omega)
    rw [List.singleton_append, pieces_one (by omega), hlead, Char.ofNat_toNat]
  · split
    · next hsize =>
      have hlead := UInt8.toNat_ofNat_of_lt' (show c.toNat / 64 % 32 + 192 < 0x100 by omega)
      rw [List.cons_append, List.singleton_append,
        pieces_two (by omega) (by omega) (isTail_tailByte _), payload_tailByte, hlead,
        hchar (by omega)]
    · split
      · next hsize =>
        have hlead := UInt8.toNat_ofNat_of_lt' (show c.toNat / 4096 % 16 + 224 < 0x100 by omega)
        have hsecond := toNat_tailByte (c.toNat / 64)
        rw [List.cons_append, List.cons_append, List.singleton_append,
          pieces_three (by omega) (by omega)
            (isSecond_of_isTail (isTail_tailByte _) (by omega) (by omega) (by omega) (by omega))
            (isTail_tailByte _),
          payload_tailByte, payload_tailByte, hlead, hchar (by omega)]
      · next hsize =>
        have hlead := UInt8.toNat_ofNat_of_lt' (show c.toNat / 262144 % 8 + 240 < 0x100 by omega)
        have hsecond := toNat_tailByte (c.toNat / 4096)
        rw [List.cons_append, List.cons_append, List.cons_append, List.singleton_append,
          pieces_four (by omega) (by omega)
            (isSecond_of_isTail (isTail_tailByte _) (by omega) (by omega) (by omega) (by omega))
            (isTail_tailByte _) (isTail_tailByte _),
          payload_tailByte, payload_tailByte, payload_tailByte, hlead, hchar (by omega)]

/-! ### Texts -/

/-- The bytes of characters. -/
def encodeChars (cs : List Char) : List UInt8 := cs.flatMap String.utf8EncodeChar

@[simp] theorem encodeChars_nil : encodeChars [] = [] := rfl

@[simp] theorem encodeChars_cons (c : Char) (cs : List Char) :
    encodeChars (c :: cs) = String.utf8EncodeChar c ++ encodeChars cs := List.flatMap_cons

@[simp] theorem encodeChars_append (cs ds : List Char) :
    encodeChars (cs ++ ds) = encodeChars cs ++ encodeChars ds := List.flatMap_append

@[simp] theorem encode_ofList (cs : List Char) : encode (String.ofList cs) = encodeChars cs := by
  rw [encode, String.toList_ofList, encodeChars]

/-- An ASCII character is one byte. -/
theorem utf8EncodeChar_of_lt {c : Char} (h : c.toNat < 0x80) :
    String.utf8EncodeChar c = [UInt8.ofNat c.toNat] := by
  unfold String.utf8EncodeChar
  simp only [Char.toNat_val]
  exact if_pos (Nat.le_of_lt_succ h)

@[simp] theorem encode_append (first second : String) :
    encode (first ++ second) = encode first ++ encode second := by
  simp [encode]

theorem encode_eq_nil_iff {text : String} : encode text = [] ↔ text = "" := by
  rw [encode, List.flatMap_eq_nil_iff, ← String.toList_eq_nil_iff, List.eq_nil_iff_forall_not_mem]
  refine forall_congr' fun c => imp_congr_right fun _ => iff_false_intro ?_
  exact String.utf8EncodeChar_ne_nil

theorem charsOf_map_char (index : Nat) (cs : List Char) :
    charsOf index (cs.map .char) = .ok cs := by
  induction cs generalizing index with
  | nil => rfl
  | cons c cs ih => rw [List.map_cons, charsOf, ih]; rfl

theorem pieces_flatMap_utf8EncodeChar (cs : List Char) :
    pieces (cs.flatMap String.utf8EncodeChar) = cs.map .char := by
  induction cs with
  | nil => rfl
  | cons c cs ih => rw [List.flatMap_cons, pieces_utf8EncodeChar_append, ih, List.map_cons]

/-- A text is decoded from its bytes. -/
theorem decode_encode (text : String) : decode (encode text) = .ok text := by
  rw [decode, encode, pieces_flatMap_utf8EncodeChar, charsOf_map_char]
  exact congrArg Except.ok String.ofList_toList

/-! ### Texts of given bytes

The bytes of a piece that is a character are those that the character is encoded with. -/

variable {p : Char} {ps : List Piece}

theorem isSecond_bounds (h : isSecond a b = true) :
    (0x80 ≤ b.toNat ∧ b.toNat ≤ 0xBF) ∧ (a.toNat = 0xE0 → 0xA0 ≤ b.toNat) ∧
      (a.toNat = 0xED → b.toNat ≤ 0x9F) ∧ (a.toNat = 0xF0 → 0x90 ≤ b.toNat) ∧
      (a.toNat = 0xF4 → b.toNat ≤ 0x8F) := by
  simp only [isSecond, isTail, beq_iff_eq, ← UInt8.toNat_inj, UInt8.reduceToNat] at h
  repeat' split at h
  all_goals
    simp only [Bool.and_eq_true, decide_eq_true_eq, UInt8.le_iff_toNat_le, UInt8.reduceToNat] at h
    omega

theorem toNat_ofNat_of_valid {n : Nat} (h : n < 0xD800 ∨ 0xDFFF < n ∧ n < 0x110000) :
    (Char.ofNat n).toNat = n := by
  have hvalid : n.isValidChar := h
  rw [Char.ofNat, dif_pos hvalid]
  rfl

theorem ofNat_eq_iff {n : Nat} (h : n < 256) : UInt8.ofNat n = b ↔ n = b.toNat := by
  rw [← UInt8.toNat_inj, UInt8.toNat_ofNat_of_lt' h]

theorem utf8EncodeChar_one (ha : a.toNat < 0x80) :
    String.utf8EncodeChar (Char.ofNat a.toNat) = [a] := by
  have hcode : (Char.ofNat a.toNat).toNat = a.toNat := toNat_ofNat_of_valid (by omega)
  rw [utf8EncodeChar_of_lt (by omega), hcode, UInt8.ofNat_toNat]

theorem utf8EncodeChar_two (hlow : 0xC2 ≤ a.toNat) (hhigh : a.toNat < 0xE0)
    (hb : isSecond a b = true) :
    String.utf8EncodeChar (Char.ofNat ((a.toNat - 0xC0) * 64 + payload b)) = [a, b] := by
  have hb := isSecond_bounds hb
  unfold payload
  -- The bounds of the first two bytes leave out the codes that are no characters.
  have hcode := toNat_ofNat_of_valid (n := (a.toNat - 0xC0) * 64 + (b.toNat - 0x80)) (by omega)
  unfold String.utf8EncodeChar
  simp only [Char.toNat_val, hcode]
  rw [if_neg (by omega), if_pos (by omega)]
  simp (disch := omega) only [List.cons.injEq, ofNat_eq_iff, and_true]
  omega

theorem utf8EncodeChar_three (hlow : 0xE0 ≤ a.toNat) (hhigh : a.toNat < 0xF0)
    (hb : isSecond a b = true) (hc : isTail c = true) :
    String.utf8EncodeChar
      (Char.ofNat ((a.toNat - 0xE0) * 4096 + payload b * 64 + payload c)) = [a, b, c] := by
  have hb := isSecond_bounds hb
  have hc := isTail_iff.mp hc
  unfold payload
  have hcode := toNat_ofNat_of_valid
    (n := (a.toNat - 0xE0) * 4096 + (b.toNat - 0x80) * 64 + (c.toNat - 0x80)) (by omega)
  unfold String.utf8EncodeChar
  simp only [Char.toNat_val, hcode]
  rw [if_neg (by omega), if_neg (by omega), if_pos (by omega)]
  simp (disch := omega) only [List.cons.injEq, ofNat_eq_iff, and_true]
  omega

theorem utf8EncodeChar_four (hlow : 0xF0 ≤ a.toNat) (hhigh : a.toNat ≤ 0xF4)
    (hb : isSecond a b = true) (hc : isTail c = true) (hd : isTail d = true) :
    String.utf8EncodeChar
      (Char.ofNat ((a.toNat - 0xF0) * 262144 + payload b * 4096 + payload c * 64 + payload d)) =
        [a, b, c, d] := by
  have hb := isSecond_bounds hb
  have hc := isTail_iff.mp hc
  have hd := isTail_iff.mp hd
  unfold payload
  have hcode := toNat_ofNat_of_valid (n := (a.toNat - 0xF0) * 262144 + (b.toNat - 0x80) * 4096 +
    (c.toNat - 0x80) * 64 + (d.toNat - 0x80)) (by omega)
  unfold String.utf8EncodeChar
  simp only [Char.toNat_val, hcode]
  rw [if_neg (by omega), if_neg (by omega), if_neg (by omega)]
  simp (disch := omega) only [List.cons.injEq, ofNat_eq_iff, and_true]
  omega

/-- A piece that is a character is made of its bytes. -/
theorem exists_of_pieces_eq_char_cons {bytes : List UInt8} (h : pieces bytes = .char p :: ps) :
    ∃ rest, bytes = String.utf8EncodeChar p ++ rest ∧ pieces rest = ps := by
  unfold pieces at h
  simp only [UInt8.lt_iff_toNat_lt, UInt8.reduceToNat, Bool.or_eq_true, decide_eq_true_eq,
    Bool.not_eq_true'] at h
  -- One case for each number of bytes; all other pieces are no characters.
  repeat' split at h
  all_goals
    simp only [List.cons.injEq, Piece.char.injEq, reduceCtorEq, false_and] at h
  · next a rest hone =>
    obtain ⟨rfl, rfl⟩ := h
    exact ⟨rest, by rw [utf8EncodeChar_one hone]; rfl, rfl⟩
  · next a hone hlead b rest hsecond htwo =>
    obtain ⟨rfl, rfl⟩ := h
    refine ⟨rest, ?_, rfl⟩
    rw [utf8EncodeChar_two (by omega) htwo (eq_true_of_ne_false hsecond)]
    rfl
  · next a hone hlead _ b hsecond htwo _ c rest hthird hthree =>
    obtain ⟨rfl, rfl⟩ := h
    refine ⟨rest, ?_, rfl⟩
    rw [utf8EncodeChar_three (by omega) hthree (eq_true_of_ne_false hsecond)
      (eq_true_of_ne_false hthird)]
    rfl
  · next a hone hlead _ b hsecond htwo _ c hthird hthree _ d rest hfourth =>
    obtain ⟨rfl, rfl⟩ := h
    refine ⟨rest, ?_, rfl⟩
    rw [utf8EncodeChar_four (by omega) (by omega) (eq_true_of_ne_false hsecond)
      (eq_true_of_ne_false hthird) (eq_true_of_ne_false hfourth)]
    rfl

theorem pieces_eq_nil_iff {bytes : List UInt8} : pieces bytes = [] ↔ bytes = [] := by
  constructor
  · intro h
    cases bytes with
    | nil => rfl
    | cons a s =>
      unfold pieces at h
      repeat' split at h
      all_goals cases h
  · rintro rfl
    rfl

/-- The pieces of a sequence are all characters if it is made of their bytes. -/
theorem pieces_eq_map_char_iff {bytes : List UInt8} {cs : List Char} :
    pieces bytes = cs.map .char ↔ bytes = encodeChars cs := by
  constructor
  · intro h
    induction cs generalizing bytes with
    | nil => exact pieces_eq_nil_iff.mp h
    | cons c cs ih =>
      obtain ⟨rest, rfl, hrest⟩ := exists_of_pieces_eq_char_cons h
      rw [ih hrest, encodeChars_cons]
  · rintro rfl
    exact pieces_flatMap_utf8EncodeChar cs

theorem eq_map_char_of_charsOf {index : Nat} {cs : List Char} (h : charsOf index ps = .ok cs) :
    ps = cs.map .char := by
  induction ps generalizing index cs with
  | nil =>
    obtain rfl := Except.ok.inj h
    rfl
  | cons piece ps ih =>
    cases piece with
    | char c =>
      rw [charsOf] at h
      cases hrest : charsOf (index + c.utf8Size) ps with
      | error e =>
        rw [hrest] at h
        cases h
      | ok rest =>
        rw [hrest] at h
        obtain rfl := Except.ok.inj h
        rw [ih hrest, List.map_cons]
    | invalid size => cases h
    | truncated size => cases h

/-- A text is decoded from its own bytes alone. -/
theorem decode_eq_ok_iff {bytes : List UInt8} {text : String} :
    decode bytes = .ok text ↔ bytes = encode text := by
  constructor
  · intro h
    cases hchars : charsOf 0 (pieces bytes) with
    | error e =>
      rw [decode, hchars] at h
      cases h
    | ok cs =>
      rw [decode, hchars] at h
      obtain rfl := Except.ok.inj h
      rw [encode_ofList]
      exact pieces_eq_map_char_iff.mp (eq_map_char_of_charsOf hchars)
  · rintro rfl
    exact decode_encode text

end ResponseCheck.Utf8
