import ResponseCheck.Http.Response.Parser
import ResponseCheck.Proofs.Except
import ResponseCheck.Proofs.Http.Headers
import ResponseCheck.Proofs.Text.Blank

/-!
# Received responses

What bytes are read as a response, part by part. However a response comes about, the names of its
headers are small, so that they are found in any letter case.
-/

namespace ResponseCheck.Http

theorem parseHead_eq_ok_iff {head : List UInt8} {status : Status} {headers : Headers} :
    parseHead head = .ok (status, headers) ↔
      ∃ text statusLine headerLines, Utf8.decode head = .ok text ∧
        Text.lines text = statusLine :: headerLines ∧ parseStatusLine statusLine = .ok status ∧
        parseHeaderLines .empty headerLines = .ok headers := by
  rw [parseHead, Except.bind_eq_ok_iff]
  simp only [Except.mapError_eq_ok_iff]
  refine exists_congr fun text => ?_
  cases Text.lines text with
  | nil => simp
  | cons statusLine headerLines => simp [Except.bind_eq_ok_iff, pure, Except.pure]

theorem Response.parse_eq_ok_iff {raw : List UInt8} {response : Response} :
    parse raw = .ok response ↔
      parseHead (splitHead raw).1 = .ok (response.status, response.headers) ∧
        response.body = (splitHead raw).2 := by
  obtain ⟨status, headers, body⟩ := response
  rw [parse, Except.bind_eq_ok_iff]
  constructor
  · rintro ⟨⟨_, _⟩, hhead, hresponse⟩
    cases hresponse
    exact ⟨hhead, rfl⟩
  · rintro ⟨hhead, hbody⟩
    obtain rfl : body = (splitHead raw).2 := hbody
    exact ⟨(status, headers), hhead, rfl⟩

/-- A line is read at its first colon: what is before it and what is behind it are trimmed. -/
theorem parseHeaderLine_append_colon {name value : List Char} (hname : ':' ∉ name) :
    parseHeaderLine (String.ofList (name ++ ':' :: value)) =
      if Text.trimChars name = [] then .error .emptyHeaderName
      else .ok (some (Text.asciiLower (String.ofList (Text.trimChars name)),
        String.ofList (Text.trimChars value))) := by
  have hfront : ':' ∉ name.dropWhile Text.isBlank :=
    fun h => hname ((List.dropWhile_suffix _).subset h)
  have htrim : Text.trimChars (name.dropWhile Text.isBlank) = Text.trimChars name := by
    rw [Text.trimChars, Text.trimChars, List.dropWhile_idempotent]
  rw [parseHeaderLine, String.toList_ofList, Text.trimChars_append_cons_eq (by decide)]
  split
  · next hnil => simp at hnil
  · rw [Text.splitOnce_append_cons hfront]
    dsimp only
    rw [htrim, Text.trimChars_dropEndWhile]
    cases Text.trimChars name <;> rfl

/-- A line without a colon is blank, or it is no header. -/
theorem parseHeaderLine_of_notMem {line : List Char} (h : ':' ∉ line) :
    parseHeaderLine (String.ofList line) =
      if Text.trimChars line = [] then .ok none
      else .error (.invalidHeader (String.ofList (Text.trimChars line))) := by
  have htrimmed : ':' ∉ Text.trimChars line :=
    fun hmem => h ((Text.mem_trimChars_iff (by decide)).mp hmem)
  rw [parseHeaderLine, String.toList_ofList]
  cases hline : Text.trimChars line with
  | nil => rfl
  | cons c rest =>
    rw [hline] at htrimmed
    simp [Text.splitOnce_eq_none htrimmed]

theorem asciiLower_of_parseHeaderLine {line name value : String}
    (h : parseHeaderLine line = .ok (some (name, value))) : Text.asciiLower name = name := by
  unfold parseHeaderLine at h
  split at h
  · cases h
  · split at h
    · cases h
    · split at h
      · cases h
      · cases h
        exact Text.asciiLower_asciiLower _

theorem Headers.Small.of_parseHeaderLines {lines : List String} {before after : Headers}
    (hbefore : before.Small) (h : parseHeaderLines before lines = .ok after) : after.Small := by
  induction lines generalizing before with
  | nil =>
    obtain rfl := Except.ok.inj h
    exact hbefore
  | cons line rest ih =>
    obtain ⟨field, hfield, hrest⟩ := Except.bind_eq_ok_iff.mp h
    cases field with
    | none => exact ih hbefore hrest
    | some field => exact ih (hbefore.append (asciiLower_of_parseHeaderLine hfield)) hrest

namespace Response

/-- Responses are made of their parts, or read from bytes. -/
inductive Received : Response → Prop
  | made (status : Status) (headers : Headers) (body : List UInt8) :
      Received (make status headers body)
  | parsed {raw : List UInt8} {response : Response} (h : parse raw = .ok response) :
      Received response

/-- The headers of a response have small names. -/
theorem Received.small {response : Response} (h : response.Received) : response.headers.Small := by
  cases h with
  | made status headers body => exact Headers.small_lowered headers
  | parsed h =>
    obtain ⟨hhead, -⟩ := parse_eq_ok_iff.mp h
    obtain ⟨-, -, headerLines, -, -, -, hheaders⟩ := parseHead_eq_ok_iff.mp hhead
    exact Headers.small_empty.of_parseHeaderLines hheaders

end Response

end ResponseCheck.Http
