import ResponseCheck.Proofs.Json.Entries
import ResponseCheck.Proofs.Json.Layout
import ResponseCheck.Proofs.Json.Reading.Number
import ResponseCheck.Proofs.Json.Reading.String

/-!
# Values are read back

A value that is written in some layout is read back from its bytes, whatever stands behind it that
does not go on with a number. The reader of a part is known by what it reads, with any blanks in
front; the parts of a container are read one after the other.

## Main definitions

* `Json.Plain` — the values that are read back, by how deep they are nested
* `Json.Reading.Reads` — what a reader reads from a text

## Main results

* `Json.Reading.items_spellItems`, `Json.Reading.entries_spellEntries` — what is behind the first
  part of a container is read back
* `Json.Reading.reads_spell` — a plain value is read back
* `Json.read_compact`, `Json.read_pretty` — a document of one is read back
-/

namespace ResponseCheck.Json

/-- The values that are nested at most so many levels deep, whose numbers are integers of 64 bits,
signed or unsigned, and whose objects repeat no name. -/
inductive Plain : Nat → Json → Prop
  | null {n : Nat} : Plain n .null
  | bool {n : Nat} (b : Bool) : Plain n (.bool b)
  | int {n : Nat} {i : Int} (hfits : (Number.int i).Fits) : Plain n (.num (.int i))
  | str {n : Nat} (s : String) : Plain n (.str s)
  | arr {n : Nat} {items : List Json} (hitems : ∀ item ∈ items, Plain n item) :
      Plain (n + 1) (.arr items)
  | obj {n : Nat} {entries : List (String × Json)} (hnames : (entries.map Prod.fst).Nodup)
      (hvalues : ∀ entry ∈ entries, Plain n entry.2) : Plain (n + 1) (.obj entries)

namespace Reading

open Utf8 (encodeChars)
open Layout (spell spellItems spellEntries)

/-- What a reader of values reads from a text, with any blanks in front of it and behind it
anything that does not go on with a number. -/
structure Reads (reader : Step Json) (text : List UInt8) (v : Json) : Prop where
  /-- The text starts with a part of the value, which no bracket that closes an array is. -/
  start : ∃ b s, text = b :: s ∧ isBlank b = false ∧ b ≠ 0x5D
  read : ∀ blanks rest, (∀ b ∈ blanks, isBlank b = true) → Follows rest →
    reader (blanks ++ (text ++ rest)) = .ok (v, rest)

variable {source : Source} {layout : Layout} {depth n : Nat} {v : Json} {b : UInt8}
  {blanks s rest : List UInt8}

/-! ### Blanks -/

theorem skipBlanks_append (hblanks : ∀ b ∈ blanks, isBlank b = true) :
    skipBlanks (blanks ++ s) = skipBlanks s :=
  List.dropWhile_append_of_pos hblanks

theorem skipBlanks_cons (hb : isBlank b = false) : skipBlanks (b :: s) = b :: s :=
  List.dropWhile_cons_of_neg (by simp [hb])

/-- Blanks do not go on with a number. -/
theorem Follows.append (hblanks : ∀ b ∈ blanks, isBlank b = true) (hs : Follows s) :
    Follows (blanks ++ s) := by
  cases blanks with
  | nil => exact hs
  | cons b blanks =>
    have hb := hblanks b List.mem_cons_self
    simp only [isBlank, Bool.or_eq_true, beq_iff_eq] at hb
    rcases hb with ((rfl | rfl) | rfl) | rfl <;> exact follows_cons rfl (by decide) rfl

theorem isBlank_of_mem_encodeChars {cs : List Char} (hcs : ∀ c ∈ cs, IsBlankChar c) :
    ∀ b ∈ encodeChars cs, isBlank b = true := by
  intro b hb
  obtain ⟨c, hc, hbyte⟩ := List.mem_flatMap.mp hb
  have hblank := hcs c hc
  simp only [IsBlankChar, List.mem_cons, List.not_mem_nil, or_false] at hblank
  rcases hblank with rfl | rfl | rfl | rfl <;> (rw [List.mem_singleton.mp hbyte]; rfl)

theorem isBlank_gap (layout : Layout) (depth : Nat) :
    ∀ b ∈ encodeChars (layout.gap depth), isBlank b = true :=
  isBlank_of_mem_encodeChars (layout.gap_blank depth)

theorem isBlank_afterColon (layout : Layout) :
    ∀ b ∈ encodeChars layout.afterColon, isBlank b = true :=
  isBlank_of_mem_encodeChars layout.afterColon_blank

/-! ### Bytes of the parts -/

theorem encodeChars_quote (text : String) :
    encodeChars (quote text) = 0x22 :: (encodeChars (text.toList.flatMap escape) ++ [0x22]) := by
  have hquote : encodeChars ['"'] = [0x22] := by decide
  rw [quote, Utf8.encodeChars_append, Utf8.encodeChars_append, hquote]
  rfl

theorem encodeChars_spell_arr_cons (layout : Layout) (depth : Nat) (v : Json) (vs : List Json) :
    encodeChars (layout.spell depth (.arr (v :: vs))) =
      0x5B :: (encodeChars (layout.gap (depth + 1)) ++ (encodeChars (layout.spell (depth + 1) v)
        ++ encodeChars (layout.spellItems depth vs))) := by
  have hopen : String.utf8EncodeChar '[' = [0x5B] := by decide
  simp [spell, hopen]

theorem encodeChars_spellItems_nil (layout : Layout) (depth : Nat) :
    encodeChars (layout.spellItems depth []) = encodeChars (layout.gap depth) ++ [0x5D] := by
  have hclose : encodeChars [']'] = [0x5D] := by decide
  rw [spellItems, Utf8.encodeChars_append, hclose]

theorem encodeChars_spellItems_cons (layout : Layout) (depth : Nat) (v : Json) (vs : List Json) :
    encodeChars (layout.spellItems depth (v :: vs)) =
      0x2C :: (encodeChars (layout.gap (depth + 1)) ++ (encodeChars (layout.spell (depth + 1) v)
        ++ encodeChars (layout.spellItems depth vs))) := by
  have hcomma : String.utf8EncodeChar ',' = [0x2C] := by decide
  simp [spellItems, hcomma]

theorem encodeChars_spellEntries_nil (layout : Layout) (depth : Nat) :
    encodeChars (layout.spellEntries depth []) = encodeChars (layout.gap depth) ++ [0x7D] := by
  have hclose : encodeChars ['\x7d'] = [0x7D] := by decide
  rw [spellEntries, Utf8.encodeChars_append, hclose]

/-- The bytes of an entry after the opening quote of its name. -/
def entryBytes (layout : Layout) (depth : Nat) (entry : String × Json) : List UInt8 :=
  encodeChars (entry.1.toList.flatMap escape) ++ 0x22 :: 0x3A ::
    (encodeChars layout.afterColon ++ encodeChars (layout.spell depth entry.2))

theorem encodeChars_spell_obj_cons (layout : Layout) (depth : Nat) (entry : String × Json)
    (entries : List (String × Json)) :
    encodeChars (layout.spell depth (.obj (entry :: entries))) =
      0x7B :: (encodeChars (layout.gap (depth + 1)) ++ 0x22 ::
        (entryBytes layout (depth + 1) entry
          ++ encodeChars (layout.spellEntries depth entries))) := by
  have hopen : String.utf8EncodeChar '\x7b' = [0x7B] := by decide
  have hcolon : String.utf8EncodeChar ':' = [0x3A] := by decide
  obtain ⟨name, v⟩ := entry
  simp [spell, hopen, hcolon, encodeChars_quote, entryBytes]

theorem encodeChars_spellEntries_cons (layout : Layout) (depth : Nat) (entry : String × Json)
    (entries : List (String × Json)) :
    encodeChars (layout.spellEntries depth (entry :: entries)) =
      0x2C :: (encodeChars (layout.gap (depth + 1)) ++ 0x22 ::
        (entryBytes layout (depth + 1) entry
          ++ encodeChars (layout.spellEntries depth entries))) := by
  have hcomma : String.utf8EncodeChar ',' = [0x2C] := by decide
  have hcolon : String.utf8EncodeChar ':' = [0x3A] := by decide
  obtain ⟨name, v⟩ := entry
  simp [spellEntries, hcomma, hcolon, encodeChars_quote, entryBytes]

/-- Behind an item there is a comma, a bracket or a blank. -/
theorem follows_spellItems (layout : Layout) (depth : Nat) (vs : List Json) (rest : List UInt8) :
    Follows (encodeChars (layout.spellItems depth vs) ++ rest) := by
  cases vs with
  | nil =>
    rw [encodeChars_spellItems_nil, List.append_assoc]
    exact .append (isBlank_gap layout depth) (follows_cons rfl (by decide) rfl)
  | cons v vs =>
    rw [encodeChars_spellItems_cons]
    exact follows_cons rfl (by decide) rfl

theorem follows_spellEntries (layout : Layout) (depth : Nat) (entries : List (String × Json))
    (rest : List UInt8) : Follows (encodeChars (layout.spellEntries depth entries) ++ rest) := by
  cases entries with
  | nil =>
    rw [encodeChars_spellEntries_nil, List.append_assoc]
    exact .append (isBlank_gap layout depth) (follows_cons rfl (by decide) rfl)
  | cons entry entries =>
    rw [encodeChars_spellEntries_cons]
    exact follows_cons rfl (by decide) rfl

/-- The bytes are enough fuel for the items. -/
theorem length_lt_length_spellItems (layout : Layout) (depth : Nat) (vs : List Json) :
    vs.length < (encodeChars (layout.spellItems depth vs)).length := by
  induction vs with
  | nil => simp [encodeChars_spellItems_nil]
  | cons v vs ih =>
    simp only [encodeChars_spellItems_cons, List.length_cons, List.length_append]
    omega

theorem length_lt_length_spellEntries (layout : Layout) (depth : Nat)
    (entries : List (String × Json)) :
    entries.length < (encodeChars (layout.spellEntries depth entries)).length := by
  induction entries with
  | nil => simp [encodeChars_spellEntries_nil]
  | cons entry entries ih =>
    simp only [encodeChars_spellEntries_cons, List.length_cons, List.length_append]
    omega

/-! ### Parts of containers -/

section Parts

variable {reader : Step Json} {fuel : Nat} {after : List UInt8} {vs : List Json}
  {e : String × Json} {es : List (String × Json)}

theorem items_first_step (hitem : skipBlanks s = b :: after) (hbracket : b ≠ 0x5D)
    {behind : List UInt8} (hv : reader (b :: after) = .ok (v, behind))
    (hvs : items reader fuel false behind = .ok (vs, rest)) :
    items reader (fuel + 1) true s = .ok (v :: vs, rest) := by
  rw [items, hitem]
  simp [hbracket, hv, hvs, bind, Except.bind, pure, Except.pure]

theorem items_next_step (hitem : skipBlanks s = b :: after) (hbracket : b ≠ 0x5D)
    {behind : List UInt8} (hv : reader (b :: after) = .ok (v, behind))
    (hvs : items reader fuel false behind = .ok (vs, rest)) :
    items reader (fuel + 1) false (0x2C :: s) = .ok (v :: vs, rest) := by
  rw [items, skipBlanks_cons rfl]
  simp [hitem, hbracket, hv, hvs, bind, Except.bind, pure, Except.pure]

theorem entries_first_step (hentry : skipBlanks s = 0x22 :: after) {behind : List UInt8}
    (he : entry reader after = .ok (e, behind))
    (hes : entries reader fuel false behind = .ok (es, rest)) :
    entries reader (fuel + 1) true s = .ok (e :: es, rest) := by
  rw [entries, hentry]
  simp [he, hes, bind, Except.bind, pure, Except.pure]

theorem entries_next_step (hentry : skipBlanks s = 0x22 :: after) {behind : List UInt8}
    (he : entry reader after = .ok (e, behind))
    (hes : entries reader fuel false behind = .ok (es, rest)) :
    entries reader (fuel + 1) false (0x2C :: s) = .ok (e :: es, rest) := by
  rw [entries, skipBlanks_cons rfl]
  simp [hentry, he, hes, bind, Except.bind, pure, Except.pure]

/-- An item is found behind the gap in front of it. -/
theorem Reads.exists_item (h : Reads reader (encodeChars (layout.spell (depth + 1) v)) v)
    (hrest : Follows rest) :
    ∃ b after, b ≠ 0x5D ∧ reader (b :: after) = .ok (v, rest) ∧
      skipBlanks (encodeChars (layout.gap (depth + 1)) ++
        (encodeChars (layout.spell (depth + 1) v) ++ rest)) = b :: after := by
  obtain ⟨b, s, hbytes, hblank, hbracket⟩ := h.start
  have hread := h.read [] rest nofun hrest
  rw [List.nil_append, hbytes, List.cons_append] at hread
  refine ⟨b, s ++ rest, hbracket, hread, ?_⟩
  rw [skipBlanks_append (isBlank_gap layout (depth + 1)), hbytes, List.cons_append,
    skipBlanks_cons hblank]

/-- Behind the first item, a comma and an item are read again and again up to the bracket. -/
theorem items_spellItems
    (hreads : ∀ v ∈ vs, Reads reader (encodeChars (layout.spell (depth + 1) v)) v)
    (hfuel : vs.length < fuel) (rest : List UInt8) :
    items reader fuel false (encodeChars (layout.spellItems depth vs) ++ rest) =
      .ok (vs, rest) := by
  induction vs generalizing fuel with
  | nil =>
    -- What is left is the bracket, behind its gap.
    obtain ⟨fuel, rfl⟩ := Nat.exists_eq_add_one_of_ne_zero (Nat.ne_zero_of_lt hfuel)
    rw [encodeChars_spellItems_nil, List.append_assoc, items,
      skipBlanks_append (isBlank_gap layout depth)]
    rfl
  | cons v vs ih =>
    obtain ⟨fuel, rfl⟩ := Nat.exists_eq_add_one_of_ne_zero (Nat.ne_zero_of_lt hfuel)
    obtain ⟨hv, hvs⟩ := List.forall_mem_cons.mp hreads
    obtain ⟨b, after, hbracket, hread, hskip⟩ :=
      hv.exists_item (follows_spellItems layout depth vs rest)
    have hothers := ih hvs (Nat.lt_of_succ_lt_succ hfuel)
    rw [encodeChars_spellItems_cons, List.cons_append, List.append_assoc, List.append_assoc]
    exact items_next_step hskip hbracket hread hothers

/-- The items of an array that has some are read up to the bracket. -/
theorem items_first
    (hreads : ∀ item ∈ v :: vs, Reads reader (encodeChars (layout.spell (depth + 1) item)) item)
    (hfuel : (v :: vs).length < fuel) (rest : List UInt8) :
    items reader fuel true (encodeChars (layout.gap (depth + 1)) ++
      (encodeChars (layout.spell (depth + 1) v) ++
        (encodeChars (layout.spellItems depth vs) ++ rest))) = .ok (v :: vs, rest) := by
  obtain ⟨fuel, rfl⟩ := Nat.exists_eq_add_one_of_ne_zero (Nat.ne_zero_of_lt hfuel)
  obtain ⟨hv, hvs⟩ := List.forall_mem_cons.mp hreads
  obtain ⟨b, after, hbracket, hread, hskip⟩ :=
    hv.exists_item (follows_spellItems layout depth vs rest)
  have hothers := items_spellItems hvs (Nat.lt_of_succ_lt_succ hfuel) rest
  exact items_first_step hskip hbracket hread hothers

/-- An entry is read after the opening quote of its name. -/
theorem entry_entryBytes (hreads : Reads reader (encodeChars (layout.spell depth e.2)) e.2)
    (hrest : Follows rest) :
    entry reader (entryBytes layout depth e ++ rest) = .ok (e, rest) := by
  have hname := string_escape e.1 (0x3A ::
    (encodeChars layout.afterColon ++ (encodeChars (layout.spell depth e.2) ++ rest)))
  have hvalue := hreads.read _ _ (isBlank_afterColon layout) hrest
  simp only [entryBytes, List.append_assoc, List.cons_append, entry, hname, bind, Except.bind,
    skipBlanks_cons (show isBlank 0x3A = false from rfl), hvalue]
  rfl

/-- The quote of a name is found behind the gap in front of it. -/
theorem skipBlanks_gap_quote (layout : Layout) (depth : Nat) (s : List UInt8) :
    skipBlanks (encodeChars (layout.gap depth) ++ 0x22 :: s) = 0x22 :: s := by
  rw [skipBlanks_append (isBlank_gap layout depth), skipBlanks_cons rfl]

/-- Behind the first entry, a comma and an entry are read again and again up to the brace. -/
theorem entries_spellEntries
    (hreads : ∀ e ∈ es, Reads reader (encodeChars (layout.spell (depth + 1) e.2)) e.2)
    (hfuel : es.length < fuel) (rest : List UInt8) :
    entries reader fuel false (encodeChars (layout.spellEntries depth es) ++ rest) =
      .ok (es, rest) := by
  induction es generalizing fuel with
  | nil =>
    obtain ⟨fuel, rfl⟩ := Nat.exists_eq_add_one_of_ne_zero (Nat.ne_zero_of_lt hfuel)
    rw [encodeChars_spellEntries_nil, List.append_assoc, entries,
      skipBlanks_append (isBlank_gap layout depth)]
    rfl
  | cons e es ih =>
    obtain ⟨fuel, rfl⟩ := Nat.exists_eq_add_one_of_ne_zero (Nat.ne_zero_of_lt hfuel)
    obtain ⟨he, hes⟩ := List.forall_mem_cons.mp hreads
    have hentry := entry_entryBytes he (follows_spellEntries layout depth es rest)
    have hothers := ih hes (Nat.lt_of_succ_lt_succ hfuel)
    rw [encodeChars_spellEntries_cons, List.cons_append, List.append_assoc, List.cons_append,
      List.append_assoc]
    exact entries_next_step (skipBlanks_gap_quote ..) hentry hothers

/-- The entries of an object that has some are read up to the brace. -/
theorem entries_first
    (hreads : ∀ item ∈ e :: es,
      Reads reader (encodeChars (layout.spell (depth + 1) item.2)) item.2)
    (hfuel : (e :: es).length < fuel) (rest : List UInt8) :
    entries reader fuel true (encodeChars (layout.gap (depth + 1)) ++ 0x22 ::
      (entryBytes layout (depth + 1) e ++ (encodeChars (layout.spellEntries depth es) ++ rest))) =
      .ok (e :: es, rest) := by
  obtain ⟨fuel, rfl⟩ := Nat.exists_eq_add_one_of_ne_zero (Nat.ne_zero_of_lt hfuel)
  obtain ⟨he, hes⟩ := List.forall_mem_cons.mp hreads
  have hentry := entry_entryBytes he (follows_spellEntries layout depth es rest)
  have hothers := entries_spellEntries hes (Nat.lt_of_succ_lt_succ hfuel) rest
  exact entries_first_step (skipBlanks_gap_quote ..) hentry hothers

end Parts

/-! ### Whole values -/

theorem value_append (hblanks : ∀ b ∈ blanks, isBlank b = true) (depth : Nat) (s : List UInt8) :
    value source depth (blanks ++ s) = value source depth s := by
  cases depth <;> rw [value, value, skipBlanks_append hblanks]

/-- A reader of values passes over blanks. -/
theorem Reads.of_cons (hblank : isBlank b = false) (hbracket : b ≠ 0x5D)
    (hvalue : ∀ rest, Follows rest → value source n (b :: (s ++ rest)) = .ok (v, rest)) :
    Reads (value source n) (b :: s) v :=
  ⟨⟨b, s, rfl, hblank, hbracket⟩, fun _ rest hblanks hrest =>
    (value_append hblanks ..).trans (hvalue rest hrest)⟩

theorem value_minus (s : List UInt8) :
    value source (n + 1) (0x2D :: s) = (fun (m, s) => (.num m, s)) <$> number source true s := rfl

theorem value_quote (s : List UInt8) :
    value source (n + 1) (0x22 :: s) = (fun (text, s) => (.str text, s)) <$> string s := rfl

theorem value_bracket (s : List UInt8) :
    value source (n + 2) (0x5B :: s) =
      (fun (vs, s) => (.arr vs, s)) <$> items (value source (n + 1)) (s.length + 1) true s := rfl

theorem value_brace (s : List UInt8) :
    value source (n + 2) (0x7B :: s) =
      (fun (es, s) => (object es, s)) <$>
        entries (value source (n + 1)) (s.length + 1) true s := rfl

theorem isBlank_of_isDigit (h : isDigit b = true) : isBlank b = false := by
  refine Bool.eq_false_iff.mpr fun hb => ?_
  simp only [isBlank, Bool.or_eq_true, beq_iff_eq] at hb
  rcases hb with ((rfl | rfl) | rfl) | rfl <;> cases h

/-- A value that starts with a digit is a number. -/
theorem value_of_isDigit (hdigit : isDigit b = true) :
    value source (n + 1) (b :: s) =
      (fun (m, s) => (.num m, s)) <$> number source false (b :: s) := by
  have hne {c : UInt8} (hc : isDigit c = false) : (b == c) = false := by
    refine beq_false_of_ne ?_
    rintro rfl
    rw [hdigit] at hc
    cases hc
  rw [value, skipBlanks_cons (isBlank_of_isDigit hdigit)]
  simp only [hne (c := 0x6E) rfl, hne (c := 0x74) rfl, hne (c := 0x66) rfl, hne (c := 0x2D) rfl,
    hdigit]
  rfl

/-- An integer of 64 bits is read from its digits, and from its sign if it is negative. -/
theorem reads_integerChars {i : Int} (hfits : (Number.int i).Fits) :
    Reads (value source (n + 1)) (encodeChars (integerChars i)) (.num (.int i)) := by
  obtain ⟨hlow, hhigh⟩ := hfits
  cases i with
  | ofNat m =>
    obtain ⟨b, s, hbytes, hdigit⟩ := exists_byte_of_toDigits m
    have hword : m ≤ maxWord := Int.ofNat_le.mp hhigh
    have hbracket : b ≠ 0x5D := by
      rintro rfl
      cases hdigit
    rw [integerChars, hbytes]
    refine .of_cons (isBlank_of_isDigit hdigit) hbracket ?_
    intro rest hrest
    rw [value_of_isDigit hdigit, ← List.cons_append, ← hbytes, number_toDigits hword hrest]
    rfl
  | negSucc m =>
    have hminus : String.utf8EncodeChar '-' = [0x2D] := by decide
    -- The digits stay in the word, and with the sign they stay in the signed one.
    have hsigned : m + 1 ≤ 0x8000000000000000 := by omega
    have hword : m + 1 ≤ maxWord := Nat.le_trans hsigned (by decide)
    have hinteger : ¬ (m + 1 = 0 ∨ 0x8000000000000000 < m + 1) := by omega
    have hwhole (s : List UInt8) : whole source true (m + 1) s = .ok (.int (.negSucc m), s) := by
      simp only [whole, Bool.not_true, Bool.false_eq_true, if_false, if_neg hinteger]
      rfl
    rw [integerChars, Utf8.encodeChars_cons, hminus, List.singleton_append]
    refine .of_cons rfl (by decide) ?_
    intro rest hrest
    rw [value_minus, number_toDigits hword hrest, hwhole]
    rfl

/-- A string is read between its quotes. -/
theorem reads_quote (text : String) :
    Reads (value source (n + 1)) (encodeChars (quote text)) (.str text) := by
  rw [encodeChars_quote]
  refine .of_cons rfl (by decide) ?_
  intro rest _
  rw [List.append_assoc, List.singleton_append, value_quote, string_escape]
  rfl

/-- An array is read back if its items are. -/
theorem reads_arr {vs : List Json}
    (hreads : ∀ v ∈ vs,
      Reads (value source (n + 1)) (encodeChars (layout.spell (depth + 1) v)) v) :
    Reads (value source (n + 2)) (encodeChars (layout.spell depth (.arr vs))) (.arr vs) := by
  cases vs with
  | nil => exact .of_cons (b := 0x5B) (s := [0x5D]) rfl (by decide) fun _ _ => rfl
  | cons v vs =>
    rw [encodeChars_spell_arr_cons]
    refine .of_cons rfl (by decide) ?_
    intro rest _
    have hlength := length_lt_length_spellItems layout depth vs
    rw [value_bracket, List.append_assoc, List.append_assoc, items_first hreads]
    · rfl
    · simp only [List.length_append, List.length_cons]
      omega

/-- An object is read back if its values are and no name is repeated. -/
theorem reads_obj {es : List (String × Json)} (hnames : (es.map Prod.fst).Nodup)
    (hreads : ∀ e ∈ es,
      Reads (value source (n + 1)) (encodeChars (layout.spell (depth + 1) e.2)) e.2) :
    Reads (value source (n + 2)) (encodeChars (layout.spell depth (.obj es))) (.obj es) := by
  cases es with
  | nil => exact .of_cons (b := 0x7B) (s := [0x7D]) rfl (by decide) fun _ _ => rfl
  | cons e es =>
    rw [encodeChars_spell_obj_cons]
    refine .of_cons rfl (by decide) ?_
    intro rest _
    have hlength := length_lt_length_spellEntries layout depth es
    rw [value_brace, List.append_assoc, List.cons_append, List.append_assoc,
      entries_first hreads]
    · -- Entries of one name would be put together.
      change Except.ok (object (e :: es), rest) = _
      rw [object, collapse_of_nodup hnames]
    · simp only [List.length_append, List.length_cons]
      omega

/-- A plain value is read back from its text in any layout, with one level more than it has. -/
theorem reads_spell (source : Source) (layout : Layout) (h : Plain n v) (depth : Nat) :
    Reads (value source (n + 1)) (encodeChars (layout.spell depth v)) v := by
  -- On the value: the levels that are left go down with it, and the gaps grow.
  induction h generalizing depth with
  | null => exact .of_cons (b := 0x6E) (s := [0x75, 0x6C, 0x6C]) rfl (by decide) fun _ _ => rfl
  | bool b =>
    cases b with
    | false =>
      exact .of_cons (b := 0x66) (s := [0x61, 0x6C, 0x73, 0x65]) rfl (by decide) fun _ _ => rfl
    | true => exact .of_cons (b := 0x74) (s := [0x72, 0x75, 0x65]) rfl (by decide) fun _ _ => rfl
  | int hfits => exact reads_integerChars hfits
  | str s => exact reads_quote s
  | arr hitems ih => exact reads_arr fun v hv => ih v hv (depth + 1)
  | obj hnames hvalues ih => exact reads_obj hnames fun e he => ih e he (depth + 1)

/-! ### Documents -/

/-- The levels that a document may have are enough for a value with 127 of them. -/
theorem document_spell (layout : Layout) (h : Plain 127 v) :
    document source (encodeChars (layout.spell 0 v)) = .ok v := by
  have hread := (reads_spell source layout h 0).read [] [] nofun follows_nil
  rw [List.nil_append, List.append_nil] at hread
  simp only [document, hread, bind, Except.bind]
  rfl

end Reading

variable {v : Json}

/-- A text on one line is read back. -/
theorem read_compact (source : Source) (h : Plain 127 v) :
    read source (Utf8.encode v.compact) = .ok v := by
  rw [compact, Utf8.encode_ofList, compactChars_eq_spell 0, read,
    Reading.document_spell Layout.oneLine h]

/-- An indented text is read back. -/
theorem read_pretty (source : Source) (h : Plain 127 v) :
    read source (Utf8.encode v.pretty) = .ok v := by
  rw [pretty, Utf8.encode_ofList, prettyChars_eq_spell 0, read,
    Reading.document_spell Layout.indented h]

end ResponseCheck.Json
