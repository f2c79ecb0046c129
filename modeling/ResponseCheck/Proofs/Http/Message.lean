import ResponseCheck.Proofs.Http.Framing
import ResponseCheck.Proofs.Http.Response
import ResponseCheck.Proofs.Text.Unsigned

/-!
# Written responses

A response is written as a status line, a line for each header field, an empty line, and the body.
Reading the bytes gives back the status and the body. Fields whose names differ in letter case only
become one header, whose values are joined.
-/

namespace ResponseCheck.Http

/-- A header field that can be written on a line. -/
structure Field where
  name : String
  value : String
  name_ne_empty : name ≠ ""
  name_isLine : IsLine name
  name_noColon : ':' ∉ name.toList
  name_trimmed : Text.trim name = name
  value_isLine : IsLine value
  value_trimmed : Text.trim value = value

/-- The line of a field. -/
def Field.line (field : Field) : String := field.name ++ ": " ++ field.value

/-- A response that can be written; nothing is asked of its body. -/
structure Message where
  version : String
  status : Status
  reason : String
  fields : List Field
  body : List UInt8
  version_http : "HTTP/".toList <+: version.toList
  /-- Only ASCII blanks separate words, so that any other blank may stand in a version. -/
  version_isWord : IsWord version
  reason_isLine : IsLine reason

namespace Message

/-- The first line of a message. -/
def statusLine (message : Message) : String :=
  message.version ++ " " ++ toString message.status.val ++ " " ++ message.reason

/-- The lines of a message before the empty one. -/
def lines (message : Message) : List String :=
  message.statusLine :: message.fields.map Field.line

/-- A message as it is written: its lines, an empty line, all with the same line end, and the
body. -/
def toBytes (message : Message) (ending : LineEnd) : List UInt8 :=
  Utf8.encode (String.join (message.lines.map (· ++ ending.text)) ++ ending.text) ++ message.body

/-- The fields of a message in their order, with small names. -/
def entries (message : Message) : List (String × String) :=
  message.fields.map fun field => (Text.asciiLower field.name, field.value)

end Message

/-! ### Lines -/

theorem isAsciiBlank_of_mem_toDigits {n : Nat} {c : Char} (hc : c ∈ Nat.toDigits 10 n) :
    Text.isAsciiBlank c = false :=
  Text.isAsciiBlank_of_isDigit (Nat.isDigit_of_mem_toDigits (by decide) (by decide) hc)

theorem Field.isLine_line (field : Field) : IsLine field.line ∧ field.line ≠ "" := by
  constructor
  · rw [line, isLine_append_iff, isLine_append_iff]
    exact ⟨⟨field.name_isLine, by decide⟩, field.value_isLine⟩
  · simp [line, field.name_ne_empty]

theorem Message.isLine_statusLine (message : Message) :
    IsLine message.statusLine ∧ message.statusLine ≠ "" := by
  constructor
  · have hblank : IsLine " " := by decide
    have hstatus : IsWord (toString message.status.val) := fun c hc => by
      rw [Nat.toString_eq_ofList_toDigits, String.toList_ofList] at hc
      exact isAsciiBlank_of_mem_toDigits hc
    simp only [statusLine, isLine_append_iff]
    exact ⟨⟨⟨⟨message.version_isWord.isLine, hblank⟩, hstatus.isLine⟩, hblank⟩,
      message.reason_isLine⟩
  · simp [statusLine]

theorem Message.isLine_of_mem_lines (message : Message) :
    ∀ line ∈ message.lines, IsLine line ∧ line ≠ "" := by
  intro line hline
  rcases List.mem_cons.mp hline with rfl | hfield
  · exact message.isLine_statusLine
  · obtain ⟨field, -, rfl⟩ := List.mem_map.mp hfield
    exact field.isLine_line

/-- The head of a message is its lines, with line ends between them. -/
theorem Message.splitHead_toBytes (message : Message) (ending : LineEnd) :
    splitHead (message.toBytes ending) =
      (Utf8.encode (ending.text.intercalate message.lines), message.body) := by
  have hne : message.lines ≠ [] := List.cons_ne_nil _ _
  rw [toBytes, join_map_append _ hne, Utf8.encode_append, Utf8.encode_append, List.append_assoc,
    List.append_assoc, splitHead_intercalate ending _ hne message.isLine_of_mem_lines]

/-! ### The status line -/

theorem Message.words_statusLine (message : Message) :
    Text.words message.statusLine.toList =
      message.version.toList :: Nat.toDigits 10 message.status.val ::
        Text.words message.reason.toList := by
  have hversion : message.version.toList ≠ [] := fun h => by
    have hprefix := message.version_http
    rw [h] at hprefix
    exact absurd hprefix (by decide)
  have hchars : message.statusLine.toList = message.version.toList ++
      ' ' :: (Nat.toDigits 10 message.status.val ++ ' ' :: message.reason.toList) := by
    simp [statusLine]
  rw [hchars, Text.words_append_cons message.version_isWord hversion (by decide),
    Text.words_append_cons (fun _ => isAsciiBlank_of_mem_toDigits) Nat.toDigits_ne_nil (by decide)]

theorem Message.parseStatusLine_statusLine (message : Message) :
    parseStatusLine message.statusLine = .ok message.status := by
  have hhttp : "HTTP/".toList.isPrefixOf message.version.toList = true :=
    List.isPrefixOf_iff_prefix.mpr message.version_http
  rw [parseStatusLine, message.words_statusLine]
  simp only [hhttp, Text.unsigned?_toDigits]
  simp [Status.ofNat?]

/-! ### Field lines -/

theorem Field.name_toList_ne_nil (field : Field) : field.name.toList ≠ [] :=
  fun h => field.name_ne_empty (String.toList_eq_nil_iff.mp h)

theorem Field.parseHeaderLine_line (field : Field) :
    parseHeaderLine field.line = .ok (some (Text.asciiLower field.name, field.value)) := by
  have hline : field.line = String.ofList (field.name.toList ++ ':' :: ' ' :: field.value.toList) := by
    rw [← String.toList_inj]
    simp [line]
  -- The first colon is the one behind the name, whatever the value contains.
  rw [hline, parseHeaderLine_append_colon field.name_noColon,
    Text.trim_eq_self_iff.mp field.name_trimmed, Text.trimChars_cons_of_isBlank (by decide),
    Text.trim_eq_self_iff.mp field.value_trimmed, if_neg field.name_toList_ne_nil,
    String.ofList_toList, String.ofList_toList]

theorem parseHeaderLines_map_line (fields : List Field) (headers : Headers) :
    parseHeaderLines headers (fields.map Field.line) =
      .ok (headers.appendAll
        (fields.map fun field => (Text.asciiLower field.name, field.value))) := by
  induction fields generalizing headers with
  | nil => rfl
  | cons field fields ih =>
    rw [List.map_cons, parseHeaderLines, field.parseHeaderLine_line]
    exact ih _

/-! ### Messages -/

namespace Message

theorem parse_toBytes_eq (message : Message) (ending : LineEnd) :
    Response.parse (message.toBytes ending) =
      .ok ⟨message.status, Headers.empty.appendAll message.entries, message.body⟩ := by
  rw [Response.parse_eq_ok_iff, message.splitHead_toBytes, parseHead_eq_ok_iff]
  exact ⟨⟨_, _, _, Utf8.decode_encode _, lines_intercalate ending message.isLine_of_mem_lines,
    message.parseStatusLine_statusLine, parseHeaderLines_map_line _ _⟩, rfl⟩

/-- A message that is written with either line end is read back: its status, its body, and for each
small name the values of that name, in their order and joined from the first on that is not
empty. -/
theorem parse_toBytes (message : Message) (ending : LineEnd) :
    ∃ headers : Headers,
      Response.parse (message.toBytes ending) = .ok ⟨message.status, headers, message.body⟩ ∧
        (headers.entries.map Prod.fst).Nodup ∧
        ∀ name value, (name, value) ∈ headers.entries ↔
          name ∈ message.entries.map Prod.fst ∧
            value = Headers.joinValues (Headers.valuesOf name message.entries) := by
  refine ⟨_, message.parse_toBytes_eq ending, Headers.nodup_names _, fun name value => ?_⟩
  rw [← Headers.get?_eq_some_iff, Headers.get?_appendAll]
  -- A header is there if and only if its name has values.
  split
  · next hnone => simp [Headers.valuesOf_eq_nil_iff.mp hnone]
  · next hsome =>
    have hname : name ∈ message.entries.map Prod.fst :=
      not_not.mp (mt Headers.valuesOf_eq_nil_iff.mpr hsome)
    rw [Option.some.injEq, eq_comm]
    exact (and_iff_right hname).symm

/-- The first value of a name is empty here, and the body starts with an empty line. -/
example :
    let first : Field := ⟨"Age", "", by decide, by decide, by decide, by decide +kernel,
      by decide, by decide +kernel⟩
    let second : Field := ⟨"AGE", "1", by decide, by decide, by decide, by decide +kernel,
      by decide, by decide +kernel⟩
    let message : Message := ⟨"HTTP/1", 204, "", [first, second], [0x0A, 0x0A, 0xFF], by decide,
      by decide, by decide⟩
    Response.parse (message.toBytes .crlf) =
      .ok ⟨204, .ofList [("age", "1")], [0x0A, 0x0A, 0xFF]⟩ := by
  cbv

end Message

end ResponseCheck.Http
