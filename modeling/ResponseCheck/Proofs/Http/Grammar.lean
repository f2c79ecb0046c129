import ResponseCheck.Proofs.Http.EmptyLine
import ResponseCheck.Proofs.Text.Lines
import ResponseCheck.Proofs.Text.Unsigned

/-!
# What is read as a response

Which bytes are read as a response is decided by their head. It is a text with a status line, whose
second word is a status code, and lines that are blank or have a name in front of a colon.

## Main definitions

* `Http.IsStatusLine`, `Http.IsHeaderLine`, `Http.IsHead` — the grammar of heads

## Main results

* `Http.parseStatusLine_eq_ok_iff`, `Http.exists_parseHeaderLine_eq_ok_iff` — what is read as a line
* `Http.Response.parse_accepts_grammar` — what is read as a response, and what more bytes change
-/

namespace ResponseCheck.Http

open Text (isBlank isAsciiBlank HasLines)

/-- Status lines with a status: a word that starts with `HTTP/`, and a number with an optional plus
sign as the second word. -/
inductive IsStatusLine : List Char → Nat → Prop
  | intro {lead version gap sign digits rest : List Char}
      (hlead : ∀ c ∈ lead, isAsciiBlank c = true)
      (hversion : ∀ c ∈ version, isAsciiBlank c = false) (hhttp : "HTTP/".toList <+: version)
      (hgap : ∀ c ∈ gap, isAsciiBlank c = true) (hgap_ne : gap ≠ [])
      (hsign : sign = [] ∨ sign = ['+'])
      (hdigits : ∀ c ∈ digits, c.isDigit = true) (hdigits_ne : digits ≠ [])
      (hrest : ∀ c ∈ rest.head?, isAsciiBlank c = true) :
      IsStatusLine (lead ++ version ++ gap ++ sign ++ digits ++ rest) (Nat.ofDigitChars 10 digits 0)

/-- Header lines: blank ones, and those with something that is not blank before the first colon. -/
def IsHeaderLine (line : List Char) : Prop :=
  (∀ c ∈ line, isBlank c = true) ∨
    ∃ name value, line = name ++ ':' :: value ∧ ':' ∉ name ∧ ∃ c ∈ name, isBlank c = false

/-- The heads of responses: texts with a status line, and header lines behind it. -/
def IsHead (head : List UInt8) : Prop :=
  head ≠ [] ∧ ∃ chars statusLine headerLines status, head = Utf8.encodeChars chars ∧
    HasLines chars (statusLine :: headerLines) ∧ IsStatusLine statusLine status ∧
    status ≤ 65535 ∧ ∀ line ∈ headerLines, IsHeaderLine line

variable {line : List Char} {lines : List (List Char)} {status : Status} {head : List UInt8}

/-! ### Status lines -/

/-- A number is a word: neither its sign nor its digits are blanks. -/
theorem isAsciiBlank_of_unsigned? {number : List Char} {n : Nat}
    (h : Text.unsigned? number = some n) :
    number ≠ [] ∧ ∀ c ∈ number, isAsciiBlank c = false := by
  obtain ⟨sign, digits, rfl, hsign, hne, hdigits, -⟩ := Text.unsigned?_eq_some_iff.mp h
  refine ⟨List.append_ne_nil_of_right_ne_nil _ hne, List.forall_mem_append.mpr ⟨?_, ?_⟩⟩
  · rcases hsign with rfl | rfl
    · exact List.forall_mem_nil _
    · exact List.forall_mem_singleton.mpr rfl
  · exact fun c hc => Text.isAsciiBlank_of_isDigit (hdigits c hc)

/-- The first words of a status line are the version and the number. -/
theorem IsStatusLine.exists_words_eq {n : Nat} (h : IsStatusLine line n) :
    ∃ version number others, Text.words line = version :: number :: others ∧
      "HTTP/".toList <+: version ∧ Text.unsigned? number = some n := by
  cases h with
  | @intro lead version gap sign digits rest hlead hversion hhttp hgap hgap_ne hsign hdigits
      hdigits_ne hrest =>
    have hversion_ne : version ≠ [] := by
      rintro rfl
      exact absurd hhttp (by decide)
    have hnumber : Text.unsigned? (sign ++ digits) = some (Nat.ofDigitChars 10 digits 0) :=
      Text.unsigned?_eq_some_iff.mpr ⟨sign, digits, rfl, hsign, hdigits_ne, hdigits, rfl⟩
    obtain ⟨hnumber_ne, hword⟩ := isAsciiBlank_of_unsigned? hnumber
    have hbehind : ∀ c ∈ (gap ++ (sign ++ digits ++ rest)).head?, isAsciiBlank c = true := by
      rw [List.head?_append_of_ne_nil _ hgap_ne]
      exact fun c hc => hgap c (List.mem_of_mem_head? hc)
    refine ⟨version, sign ++ digits, Text.words rest, ?_, hhttp, hnumber⟩
    calc Text.words (lead ++ version ++ gap ++ sign ++ digits ++ rest)
      _ = Text.words (lead ++ (version ++ (gap ++ (sign ++ digits ++ rest)))) := by
        simp only [List.append_assoc]
      _ = version :: Text.words (gap ++ (sign ++ digits ++ rest)) := by
        rw [Text.words_append_of_isAsciiBlank hlead, Text.words_append hversion hversion_ne hbehind]
      _ = version :: (sign ++ digits) :: Text.words rest := by
        rw [Text.words_append_of_isAsciiBlank hgap, Text.words_append hword hnumber_ne hrest]

theorem isStatusLine_of_words_eq {n : Nat} {version number : List Char} {others : List (List Char)}
    (hwords : Text.words line = version :: number :: others) (hhttp : "HTTP/".toList <+: version)
    (hnumber : Text.unsigned? number = some n) : IsStatusLine line n := by
  obtain ⟨lead, behind, rfl, hlead, -, hversion, hbehind, hothers⟩ :=
    Text.words_eq_cons_iff.mp hwords
  obtain ⟨gap, rest, rfl, hgap, hne, hword, hrest, -⟩ := Text.words_eq_cons_iff.mp hothers
  -- Without a gap, the version would go on with the number.
  have hgap_ne : gap ≠ [] := by
    rintro rfl
    obtain ⟨c, hc⟩ := Option.isSome_iff_exists.mp (List.isSome_head?.mpr hne)
    rw [List.nil_append, List.head?_append_of_ne_nil _ hne] at hbehind
    have hblank := hbehind c hc
    rw [hword c (List.mem_of_mem_head? hc)] at hblank
    cases hblank
  obtain ⟨sign, digits, rfl, hsign, hdigits_ne, hdigits, rfl⟩ :=
    Text.unsigned?_eq_some_iff.mp hnumber
  have hline := IsStatusLine.intro hlead hversion hhttp hgap hgap_ne hsign hdigits hdigits_ne hrest
  simpa only [List.append_assoc] using hline

theorem Status.ofNat?_eq_some_iff {n : Nat} : Status.ofNat? n = some status ↔ n = status.val := by
  unfold Status.ofNat?
  split
  · rw [Option.some.injEq, Fin.ext_iff]
  · next hlarge =>
    have hstatus := status.isLt
    simp only [reduceCtorEq, false_iff]
    omega

/-- A status line is read by its first two words. -/
theorem parseStatusLine_eq_ok_iff_words :
    parseStatusLine (String.ofList line) = .ok status ↔
      ∃ version number others, Text.words line = version :: number :: others ∧
        "HTTP/".toList <+: version ∧ Text.unsigned? number = some status.val := by
  have hstatus (number : List Char) : (Text.unsigned? number).bind Status.ofNat? = some status ↔
      Text.unsigned? number = some status.val := by
    simp only [Option.bind_eq_some_iff, Status.ofNat?_eq_some_iff, exists_eq_right]
  simp only [← hstatus]
  rw [parseStatusLine, String.toList_ofList]
  generalize "HTTP/".toList = http
  cases Text.words line with
  | nil => simp
  | cons version rest =>
    dsimp only
    by_cases hhttp : http <+: version
    · rw [List.isPrefixOf_iff_prefix.mpr hhttp]
      cases rest with
      | nil => simp
      | cons number others =>
        cases hnumber : (Text.unsigned? number).bind Status.ofNat? <;> simp [hhttp, hnumber]
    · have hrefused : http.isPrefixOf version = false :=
        Bool.eq_false_iff.mpr fun h => hhttp (List.isPrefixOf_iff_prefix.mp h)
      simp [hrefused, hhttp]

theorem parseStatusLine_eq_ok_iff :
    parseStatusLine (String.ofList line) = .ok status ↔ IsStatusLine line status.val := by
  rw [parseStatusLine_eq_ok_iff_words]
  constructor
  · rintro ⟨version, number, others, hwords, hhttp, hnumber⟩
    exact isStatusLine_of_words_eq hwords hhttp hnumber
  · exact IsStatusLine.exists_words_eq

/-! ### Header lines -/

/-- A line with a colon has a name, or it is no header line. -/
theorem isHeaderLine_append_colon_iff {name value : List Char} (hname : ':' ∉ name) :
    IsHeaderLine (name ++ ':' :: value) ↔ ∃ c ∈ name, isBlank c = false := by
  constructor
  · rintro (hblank | ⟨name', value', hsplit, hname', hsome⟩)
    · exact absurd (hblank ':' (List.mem_append_right _ List.mem_cons_self)) (by decide)
    · have hfirst := congrArg (Text.splitOnce ':') hsplit
      rw [Text.splitOnce_append_cons hname, Text.splitOnce_append_cons hname'] at hfirst
      obtain ⟨rfl, -⟩ := Prod.mk.inj (Option.some.inj hfirst)
      exact hsome
  · exact fun hsome => .inr ⟨name, value, rfl, hname, hsome⟩

theorem isHeaderLine_iff_of_notMem (h : ':' ∉ line) :
    IsHeaderLine line ↔ ∀ c ∈ line, isBlank c = true := by
  refine or_iff_left ?_
  rintro ⟨name, value, rfl, -⟩
  exact h (List.mem_append_right _ List.mem_cons_self)

theorem exists_parseHeaderLine_eq_ok_iff :
    (∃ field, parseHeaderLine (String.ofList line) = .ok field) ↔ IsHeaderLine line := by
  by_cases hcolon : ':' ∈ line
  · obtain ⟨name, value, rfl, hname⟩ := List.eq_append_cons_of_mem hcolon
    rw [parseHeaderLine_append_colon hname, isHeaderLine_append_colon_iff hname,
      ← Text.trimChars_ne_nil_iff]
    split
    · next hempty => simp [hempty]
    · next hsome => simp [hsome]
  · rw [parseHeaderLine_of_notMem hcolon, isHeaderLine_iff_of_notMem hcolon,
      ← Text.trimChars_eq_nil_iff]
    split
    · next hempty => simp [hempty]
    · next hsome => simp [hsome]

theorem exists_parseHeaderLines_eq_ok_iff {before : Headers} :
    (∃ headers, parseHeaderLines before (lines.map String.ofList) = .ok headers) ↔
      ∀ line ∈ lines, IsHeaderLine line := by
  -- By the lines, for any headers read so far: what these are has no say in what is read.
  induction lines generalizing before with
  | nil => simp [parseHeaderLines]
  | cons line rest ih =>
    rw [List.forall_mem_cons, ← exists_parseHeaderLine_eq_ok_iff, List.map_cons, parseHeaderLines]
    constructor
    · rintro ⟨headers, h⟩
      obtain ⟨field, hfield, hrest⟩ := Except.bind_eq_ok_iff.mp h
      refine ⟨⟨field, hfield⟩, ?_⟩
      cases field <;> exact ih.mp ⟨headers, hrest⟩
    · rintro ⟨⟨field, hfield⟩, hrest⟩
      have hread (before : Headers) :
          ∃ headers, parseHeaderLines before (rest.map String.ofList) = .ok headers := ih.mpr hrest
      cases field with
      | none =>
        obtain ⟨headers, hheaders⟩ := hread before
        exact ⟨headers, Except.bind_eq_ok_iff.mpr ⟨none, hfield, hheaders⟩⟩
      | some field =>
        obtain ⟨headers, hheaders⟩ := hread (before.append field.1 field.2)
        exact ⟨headers, Except.bind_eq_ok_iff.mpr ⟨some field, hfield, hheaders⟩⟩

theorem exists_parseHead_eq_ok_iff : (∃ result, parseHead head = .ok result) ↔ IsHead head := by
  simp only [Prod.exists, parseHead_eq_ok_iff]
  constructor
  · rintro ⟨status, headers, text, statusLine, headerLines, hdecode, hlines, hstatus, hheaders⟩
    have hofList : Function.Surjective String.ofList := fun text => ⟨_, String.ofList_toList⟩
    obtain ⟨chars, rfl⟩ := hofList text
    obtain ⟨statusLine, rfl⟩ := hofList statusLine
    obtain ⟨headerLines, rfl⟩ := hofList.list_map headerLines
    rw [Utf8.decode_eq_ok_iff] at hdecode
    have hne : head ≠ [] := by
      rintro rfl
      rw [Utf8.encode_eq_nil_iff.mp hdecode.symm] at hlines
      cases hlines
    exact ⟨hne, chars, statusLine, headerLines, status.val, hdecode.trans (Utf8.encode_ofList _),
      Text.lines_eq_iff.mp hlines, parseStatusLine_eq_ok_iff.mp hstatus,
      Nat.le_of_lt_succ status.isLt, exists_parseHeaderLines_eq_ok_iff.mp ⟨headers, hheaders⟩⟩
  · rintro ⟨-, chars, statusLine, headerLines, n, rfl, hlines, hstatus, hn, hheaders⟩
    obtain ⟨headers, hheaders⟩ := exists_parseHeaderLines_eq_ok_iff.mpr hheaders
    refine ⟨⟨n, Nat.lt_succ_of_le hn⟩, headers, String.ofList chars, String.ofList statusLine,
      headerLines.map String.ofList, ?_, hlines.lines_eq, parseStatusLine_eq_ok_iff.mpr hstatus,
      hheaders⟩
    rw [Utf8.decode_eq_ok_iff, Utf8.encode_ofList]

/-! ### Responses -/

namespace Response

theorem exists_parse_eq_ok_iff {raw body : List UInt8} (h : FallsApart raw head body) :
    (∃ response, parse raw = .ok response) ↔ IsHead head := by
  rw [← exists_parseHead_eq_ok_iff]
  constructor
  · rintro ⟨response, hparse⟩
    obtain ⟨hhead, -⟩ := parse_eq_ok_iff.mp hparse
    rw [fallsApart_iff.mp h] at hhead
    exact ⟨_, hhead⟩
  · rintro ⟨⟨status, headers⟩, hhead⟩
    refine ⟨⟨status, headers, body⟩, parse_eq_ok_iff.mpr ?_⟩
    rw [fallsApart_iff.mp h]
    exact ⟨hhead, rfl⟩

theorem body_of_parse_eq_ok {raw body : List UInt8} {response : Response}
    (h : FallsApart raw head body) (hparse : parse raw = .ok response) : response.body = body := by
  obtain ⟨-, hbody⟩ := parse_eq_ok_iff.mp hparse
  rw [hbody, fallsApart_iff.mp h]

/-- Raw bytes fall apart at the earliest empty line, and are read as a response exactly if their
head is one of responses; the body is what is left. If there is an empty line, more bytes change
nothing but the body, to which they are added: errors, the status and headers stay. -/
theorem parse_accepts_grammar (raw : List UInt8) :
    (∃ head body, FallsApart raw head body) ∧
    (∀ head body, FallsApart raw head body →
      ((∃ response, parse raw = .ok response) ↔ IsHead head) ∧
        ∀ response, parse raw = .ok response → response.body = body) ∧
    ∀ ending, LineEnd.twice ending <:+: raw → ∀ more,
      parse (raw ++ more) =
        (parse raw).map fun response => { response with body := response.body ++ more } :=
  ⟨⟨_, _, fallsApart_splitHead raw⟩,
    fun _ _ h => ⟨exists_parse_eq_ok_iff h, fun _ => body_of_parse_eq_ok h⟩,
    fun _ hending more => parse_append hending more⟩

/-- Blanks before the version, a sign and zeros before the number, both line ends, a line of blanks
only, a header without a value, and a body that starts with an empty line. -/
theorem parse_accepts_grammar_of_blanks :
    let head := Utf8.encode "\tHTTP/ \t+00204\r\n \u2003\nA:"
    let raw := head ++ LineEnd.crlf.twice ++ [0x0A, 0x0A]
    FallsApart raw head [0x0A, 0x0A] ∧ IsHead head ∧ LineEnd.crlf.twice <:+: raw ∧
      parse (raw ++ [0xFF]) = .ok ⟨204, .ofList [("a", "")], [0x0A, 0x0A, 0xFF]⟩ := by
  intro head raw
  obtain ⟨-, hhead, hmore⟩ := parse_accepts_grammar raw
  have hsplit : splitHead raw = (head, [0x0A, 0x0A]) := by
    unfold raw head
    cbv
  have hparse : parse raw = .ok ⟨204, .ofList [("a", "")], [0x0A, 0x0A]⟩ := by
    have hlines : Text.lines "\tHTTP/ \t+00204\r\n \u2003\nA:" =
        ["\tHTTP/ \t+00204", " \u2003", "A:"] := by cbv
    have hstatus : parseStatusLine "\tHTTP/ \t+00204" = .ok 204 := by cbv
    have hheaders : parseHeaderLines .empty [" \u2003", "A:"] = .ok (.ofList [("a", "")]) := by cbv
    rw [parse_eq_ok_iff, hsplit, parseHead_eq_ok_iff]
    exact ⟨⟨_, _, _, Utf8.decode_encode _, hlines, hstatus, hheaders⟩, rfl⟩
  have hfalls : FallsApart raw head [0x0A, 0x0A] := fallsApart_iff.mpr hsplit
  have hending : LineEnd.crlf.twice <:+: raw := ⟨head, [0x0A, 0x0A], rfl⟩
  refine ⟨hfalls, (hhead _ _ hfalls).1.mp ⟨_, hparse⟩, hending, ?_⟩
  rw [hmore _ hending, hparse]
  rfl

end Response

end ResponseCheck.Http
