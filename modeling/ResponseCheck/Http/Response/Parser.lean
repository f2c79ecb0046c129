import ResponseCheck.Http.Response
import ResponseCheck.Text.Unsigned

/-!
# Reading raw responses

A raw response is a head, an empty line, and the body. The head is text: a status line and header
lines. Lines end with LF or CRLF, and the head ends at the first two line ends of one kind in a row.
-/

namespace ResponseCheck.Http

/-- Why bytes are no raw response. -/
inductive ParseError where
  | invalidHead (error : Utf8.Error)
  | missingStatusLine
  | missingVersion
  | invalidVersion (line : String)
  | missingStatus
  | invalidStatus (word : String)
  | invalidHeader (line : String)
  | emptyHeaderName
deriving DecidableEq, Repr

/-- What is wrong with the bytes. -/
def ParseError.reason : ParseError → String
  | .invalidHead error => "head is not valid UTF-8: " ++ error.message
  | .missingStatusLine => "missing HTTP status line"
  | .missingVersion => "missing HTTP version in status line"
  | .invalidVersion line => s!"status line must start with HTTP version, got `{line}`"
  | .missingStatus => "missing status code in status line"
  | .invalidStatus word => s!"invalid status code `{word}`"
  | .invalidHeader line => s!"invalid header line `{line}`"
  | .emptyHeaderName => "header name cannot be empty"

/-- The message of a parse error. -/
def ParseError.message (e : ParseError) : String := "failed to parse http response: " ++ e.reason

/-- The bytes before the first empty line, and those after it. -/
def splitHead : List UInt8 → List UInt8 × List UInt8
  | [] => ([], [])
  | b :: rest =>
    -- The two kinds of line ends cannot both match here, since they start with different bytes.
    if [0x0D, 0x0A, 0x0D, 0x0A].isPrefixOf (b :: rest) then ([], rest.drop 3)
    else if [0x0A, 0x0A].isPrefixOf (b :: rest) then ([], rest.drop 1)
    else
      let (head, body) := splitHead rest
      (b :: head, body)

/-- Reads a status line: a word that starts with `HTTP/`, a status code, and anything else. -/
def parseStatusLine (line : String) : Except ParseError Status :=
  match Text.words line.toList with
  | [] => .error .missingVersion
  | version :: rest =>
    if !"HTTP/".toList.isPrefixOf version then .error (.invalidVersion line)
    else match rest with
      | [] => .error .missingStatus
      | word :: _ =>
        match (Text.unsigned? word).bind Status.ofNat? with
        | some status => .ok status
        | none => .error (.invalidStatus (String.ofList word))

/-- Reads a header line: a name with small letters and a value; blank lines have none. -/
def parseHeaderLine (line : String) : Except ParseError (Option (String × String)) :=
  match Text.trimChars line.toList with
  | [] => .ok none
  | trimmed =>
    match Text.splitOnce ':' trimmed with
    | none => .error (.invalidHeader (String.ofList trimmed))
    | some (name, value) =>
      match Text.trimChars name with
      | [] => .error .emptyHeaderName
      | name =>
        .ok (some (Text.asciiLower (String.ofList name), String.ofList (Text.trimChars value)))

/-- Reads header lines onto the headers read so far; values of one name are joined. -/
def parseHeaderLines (headers : Headers) : List String → Except ParseError Headers
  | [] => .ok headers
  | line :: rest => do
    match ← parseHeaderLine line with
    | none => parseHeaderLines headers rest
    | some (name, value) => parseHeaderLines (headers.append name value) rest

/-- Reads the head of a raw response. -/
def parseHead (head : List UInt8) : Except ParseError (Status × Headers) := do
  match Text.lines (← (Utf8.decode head).mapError .invalidHead) with
  | [] => .error .missingStatusLine
  | statusLine :: headerLines => do
    let status ← parseStatusLine statusLine
    let headers ← parseHeaderLines .empty headerLines
    return (status, headers)

/-- Reads a raw response. -/
def Response.parse (raw : List UInt8) : Except ParseError Response := do
  let (head, body) := splitHead raw
  let (status, headers) ← parseHead head
  return ⟨status, headers, body⟩

end ResponseCheck.Http
