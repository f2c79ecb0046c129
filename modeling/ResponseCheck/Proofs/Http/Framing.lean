import ResponseCheck.Http.Response.Parser
import ResponseCheck.Proofs.Text.Blank
import ResponseCheck.Proofs.Text.Utf8

/-!
# Lines and the end of the head

A head is made of lines, and it ends with the first empty one. A line that is not empty separates
the line ends before it from those after it, so that no empty line is found too early; and nothing
that follows the empty line is looked at.
-/

namespace ResponseCheck.Http

/-- The ends of lines. -/
inductive LineEnd where
  | lf | crlf
deriving DecidableEq, Repr

/-- The characters of a line end. -/
def LineEnd.text : LineEnd → String
  | .lf => "\n"
  | .crlf => "\r\n"

/-- Texts without line ends. -/
def IsLine (text : String) : Prop := ∀ c ∈ text.toList, c ≠ '\r' ∧ c ≠ '\n'

instance (text : String) : Decidable (IsLine text) := List.decidableBAll _ text.toList

/-- Texts without ASCII blanks. -/
def IsWord (text : String) : Prop := ∀ c ∈ text.toList, Text.isAsciiBlank c = false

instance (text : String) : Decidable (IsWord text) := List.decidableBAll _ text.toList

/-- Bytes that are part of no line end. -/
def IsPlain (b : UInt8) : Prop := b ≠ 0x0D ∧ b ≠ 0x0A

variable {b : UInt8} {line : String} {lines : List String} {ending : LineEnd}

/-! ### Texts without line ends -/

theorem isLine_append_iff {first second : String} :
    IsLine (first ++ second) ↔ IsLine first ∧ IsLine second := by
  simp only [IsLine, String.toList_append, List.forall_mem_append]

theorem IsWord.isLine {word : String} (h : IsWord word) : IsLine word := by
  intro c hc
  constructor <;> rintro rfl <;> exact absurd (h _ hc) (by decide)

/-! ### Bytes of lines -/

theorem IsLine.isPlain (hline : IsLine line) (hb : b ∈ Utf8.encode line) : IsPlain b := by
  obtain ⟨c, hc, hb⟩ := List.mem_flatMap.mp hb
  obtain ⟨hreturn, hfeed⟩ := hline c hc
  have hcode {d : Char} (hd : d.toNat < 0x80) (hne : c ≠ d) : b.toNat ≠ d.toNat := by
    rcases Utf8.mem_utf8EncodeChar hb with hascii | hhigh
    · rw [hascii]
      exact fun h => hne (Char.toNat_inj.mp h)
    · omega
  exact ⟨fun h => hcode (d := '\r') (by decide) hreturn (h ▸ rfl),
    fun h => hcode (d := '\n') (by decide) hfeed (h ▸ rfl)⟩

/-! ### The end of the head -/

theorem splitHead_cons (hb : IsPlain b) (rest : List UInt8) :
    splitHead (b :: rest) = (b :: (splitHead rest).1, (splitHead rest).2) := by
  obtain ⟨hreturn, hfeed⟩ := hb
  simp [splitHead, List.isPrefixOf, hreturn.symm, hfeed.symm]

theorem splitHead_append {bytes : List UInt8} (hbytes : ∀ b ∈ bytes, IsPlain b)
    (rest : List UInt8) :
    splitHead (bytes ++ rest) = (bytes ++ (splitHead rest).1, (splitHead rest).2) := by
  induction bytes with
  | nil => rfl
  | cons b bytes ih =>
    rw [List.cons_append, splitHead_cons (hbytes b List.mem_cons_self),
      ih fun b hb => hbytes b (List.mem_cons_of_mem _ hb)]
    rfl

/-- The bytes of a line end. -/
theorem encode_lineEnd (ending : LineEnd) :
    Utf8.encode ending.text = match ending with
      | .lf => [0x0A]
      | .crlf => [0x0D, 0x0A] := by
  cases ending <;> rfl

/-- The head does not end with a line end that is followed by a line. -/
theorem splitHead_lineEnd_append (ending : LineEnd) (hline : IsLine line) (hne : line ≠ "")
    (rest : List UInt8) :
    splitHead (Utf8.encode ending.text ++ (Utf8.encode line ++ rest)) =
      (Utf8.encode ending.text ++ (splitHead (Utf8.encode line ++ rest)).1,
        (splitHead (Utf8.encode line ++ rest)).2) := by
  cases hbytes : Utf8.encode line with
  | nil => exact absurd (Utf8.encode_eq_nil_iff.mp hbytes) hne
  | cons b bytes =>
    have hb : IsPlain b := hline.isPlain (hbytes ▸ List.mem_cons_self)
    rw [List.cons_append, splitHead_cons hb, encode_lineEnd]
    obtain ⟨hreturn, hfeed⟩ := hb
    cases ending with
    | lf => simp [splitHead, List.isPrefixOf, hreturn.symm, hfeed.symm]
    | crlf => simp [splitHead, List.isPrefixOf, hreturn.symm, hfeed.symm]

/-- The head ends with an empty line, whatever follows it. -/
theorem splitHead_emptyLine (ending : LineEnd) (body : List UInt8) :
    splitHead (Utf8.encode ending.text ++ (Utf8.encode ending.text ++ body)) = ([], body) := by
  rw [encode_lineEnd]
  cases ending with
  | lf => simp [splitHead, List.isPrefixOf]
  | crlf => simp [splitHead, List.isPrefixOf]

theorem exists_intercalate_cons_eq (sep first : String) (others : List String) :
    ∃ tail, sep.intercalate (first :: others) = first ++ tail := by
  cases others with
  | nil => exact ⟨"", by rw [String.intercalate_singleton, String.append_empty]⟩
  | cons next others => exact ⟨_, by rw [String.intercalate_cons_cons, String.append_assoc]⟩

/-- The head of lines ends with the first empty line, whatever the body. -/
theorem splitHead_intercalate (ending : LineEnd) (body : List UInt8) (hne : lines ≠ [])
    (hlines : ∀ line ∈ lines, IsLine line ∧ line ≠ "") :
    splitHead (Utf8.encode (ending.text.intercalate lines) ++
        (Utf8.encode ending.text ++ (Utf8.encode ending.text ++ body))) =
      (Utf8.encode (ending.text.intercalate lines), body) := by
  induction lines with
  | nil => exact absurd rfl hne
  | cons line others ih =>
    obtain ⟨⟨hline, -⟩, hothers⟩ := List.forall_mem_cons.mp hlines
    have hplain : ∀ b ∈ Utf8.encode line, IsPlain b := fun b hb => hline.isPlain hb
    cases others with
    | nil => rw [String.intercalate_singleton, splitHead_append hplain, splitHead_emptyLine,
        List.append_nil]
    | cons next others =>
      obtain ⟨⟨hnext, hnext_ne⟩, -⟩ := List.forall_mem_cons.mp hothers
      have ih := ih (List.cons_ne_nil _ _) hothers
      obtain ⟨tail, htail⟩ := exists_intercalate_cons_eq ending.text next others
      rw [htail, Utf8.encode_append, List.append_assoc] at ih
      -- The line end is passed over, since the next line starts with a byte of its own.
      rw [String.intercalate_cons_cons, htail]
      simp only [Utf8.encode_append, List.append_assoc]
      rw [splitHead_append hplain, splitHead_lineEnd_append ending hnext hnext_ne, ih]

/-! ### The lines of a head -/

/-- Lines that all end with a line end are lines with line ends between them and one more. -/
theorem join_map_append (sep : String) {lines : List String} (hne : lines ≠ []) :
    String.join (lines.map (· ++ sep)) = sep.intercalate lines ++ sep := by
  induction lines with
  | nil => exact absurd rfl hne
  | cons line others ih =>
    cases others with
    | nil => simp
    | cons next others =>
      rw [List.map_cons, String.join_cons, ih (List.cons_ne_nil _ _), String.intercalate_cons_cons]
      simp only [String.append_assoc]

theorem IsLine.return_notMem (hline : IsLine line) : '\r' ∉ line.toList :=
  fun h => (hline _ h).1 rfl

theorem IsLine.feed_notMem (hline : IsLine line) : '\n' ∉ line.toList :=
  fun h => (hline _ h).2 rfl

theorem lines_append_lineEnd (hline : IsLine line) (ending : LineEnd) (rest : String) :
    Text.lines (line ++ ending.text ++ rest) = line :: Text.lines rest := by
  have hreturn := hline.return_notMem
  have hfeed := hline.feed_notMem
  cases ending with
  | lf =>
    have hchars : line ++ LineEnd.lf.text ++ rest =
        String.ofList (line.toList ++ '\n' :: rest.toList) := by
      rw [← String.toList_inj]
      simp [LineEnd.text]
    rw [hchars, Text.lines_append_cons hfeed, Text.dropReturn_of_notMem hreturn,
      String.ofList_toList, String.ofList_toList]
  | crlf =>
    -- The carriage return is taken for a part of the line, and then dropped from its end.
    have hchars : line ++ LineEnd.crlf.text ++ rest =
        String.ofList ((line.toList ++ ['\r']) ++ '\n' :: rest.toList) := by
      rw [← String.toList_inj]
      simp [LineEnd.text]
    rw [hchars, Text.lines_append_cons (by simpa using hfeed), Text.dropReturn_append_return,
      String.ofList_toList, String.ofList_toList]

theorem lines_intercalate (ending : LineEnd) (hlines : ∀ line ∈ lines, IsLine line ∧ line ≠ "") :
    Text.lines (ending.text.intercalate lines) = lines := by
  induction lines with
  | nil => rfl
  | cons line others ih =>
    obtain ⟨⟨hline, hne⟩, hothers⟩ := List.forall_mem_cons.mp hlines
    cases others with
    | nil =>
      rw [String.intercalate_singleton, ← String.ofList_toList (s := line),
        Text.lines_of_notMem hline.feed_notMem (fun h => hne (String.toList_eq_nil_iff.mp h))]
    | cons next others =>
      rw [String.intercalate_cons_cons, lines_append_lineEnd hline, ih hothers]

end ResponseCheck.Http
