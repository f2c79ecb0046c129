import ResponseCheck.Pattern.Syntax
import ResponseCheck.Text.Blank

/-!
# Errors in patterns

An error points at one or two spans of the pattern. Its message shows the pattern with carets under
the spans; the lines of a pattern of several lines are numbered.
-/

namespace ResponseCheck.Pattern

/-- What is wrong with a pattern. -/
inductive Flaw where
  | classEscapeInvalid
  | classRangeInvalid
  | classRangeLiteral
  | classUnclosed
  | decimalInvalid
  | escapeHexEmpty
  | escapeHexInvalid
  | escapeHexInvalidDigit
  | escapeUnexpectedEnd
  | escapeUnrecognized
  | flagDanglingNegation
  | flagDuplicate (earlier : Span)
  | flagRepeatedNegation (earlier : Span)
  | flagUnexpectedEnd
  | flagUnrecognized
  | groupNameDuplicate (earlier : Span)
  | groupNameEmpty
  | groupNameInvalid
  | groupNameUnexpectedEnd
  | groupUnclosed
  | groupUnopened
  | nestedTooDeep (limit : Nat)
  | repetitionCountInvalid
  | repetitionCountDecimalEmpty
  | repetitionCountUnclosed
  | repetitionMissing
  | specialBoundaryUnclosed
  | specialBoundaryUnrecognized
  | specialBoundaryUnexpectedEnd
  | unicodeClassInvalid
  | unsupportedBackreference
  | unsupportedLookAround
  | unicodeNotAllowed
  | invalidUtf8
  | propertyNotFound
  | propertyValueNotFound
deriving DecidableEq, Repr

/-- The message of a flaw. -/
def Flaw.message : Flaw → String
  | .classEscapeInvalid => "invalid escape sequence found in character class"
  | .classRangeInvalid => "invalid character class range, the start must be <= the end"
  | .classRangeLiteral => "invalid range boundary, must be a literal"
  | .classUnclosed => "unclosed character class"
  | .decimalInvalid => "decimal literal invalid"
  | .escapeHexEmpty => "hexadecimal literal empty"
  | .escapeHexInvalid => "hexadecimal literal is not a Unicode scalar value"
  | .escapeHexInvalidDigit => "invalid hexadecimal digit"
  | .escapeUnexpectedEnd => "incomplete escape sequence, reached end of pattern prematurely"
  | .escapeUnrecognized => "unrecognized escape sequence"
  | .flagDanglingNegation => "dangling flag negation operator"
  | .flagDuplicate _ => "duplicate flag"
  | .flagRepeatedNegation _ => "flag negation operator repeated"
  | .flagUnexpectedEnd => "expected flag but got end of regex"
  | .flagUnrecognized => "unrecognized flag"
  | .groupNameDuplicate _ => "duplicate capture group name"
  | .groupNameEmpty => "empty capture group name"
  | .groupNameInvalid => "invalid capture group character"
  | .groupNameUnexpectedEnd => "unclosed capture group name"
  | .groupUnclosed => "unclosed group"
  | .groupUnopened => "unopened group"
  | .nestedTooDeep limit => s!"exceed the maximum number of nested parentheses/brackets ({limit})"
  | .repetitionCountInvalid =>
    "invalid repetition count range, the start must be <= the end"
  | .repetitionCountDecimalEmpty => "repetition quantifier expects a valid decimal"
  | .repetitionCountUnclosed => "unclosed counted repetition"
  | .repetitionMissing => "repetition operator missing expression"
  | .specialBoundaryUnclosed =>
    "special word boundary assertion is either unclosed or contains an invalid character"
  | .specialBoundaryUnrecognized =>
    "unrecognized special word boundary assertion, valid choices are: start, end, start-half " ++
      "or end-half"
  | .specialBoundaryUnexpectedEnd =>
    "found either the beginning of a special word boundary or a bounded repetition on a \\b " ++
      "with an opening brace, but no closing brace"
  | .unicodeClassInvalid => "invalid Unicode character class"
  | .unsupportedBackreference => "backreferences are not supported"
  | .unsupportedLookAround =>
    "look-around, including look-ahead and look-behind, is not supported"
  | .unicodeNotAllowed => "Unicode not allowed here"
  | .invalidUtf8 => "pattern can match invalid UTF-8"
  | .propertyNotFound => "Unicode property not found"
  | .propertyValueNotFound => "Unicode property value not found"

/-- An earlier place that a flaw refers to. -/
def Flaw.earlier? : Flaw → Option Span
  | .flagDuplicate span | .flagRepeatedNegation span | .groupNameDuplicate span => some span
  | _ => none

/-- A flaw and the span it points at. -/
structure Fault where
  flaw : Flaw
  span : Span
deriving DecidableEq, Repr

/-- Why a pattern cannot be used. -/
inductive Error where
  /-- The pattern is flawed. -/
  | flawed (pattern : String) (fault : Fault)
  /-- The pattern needs more space than the limit in bytes. -/
  | tooLarge (limit : Nat)
deriving DecidableEq, Repr

/-- The spans of a fault within one line, in order. -/
def Fault.spansOnLine (fault : Fault) (line : Nat) : List Span :=
  let onLine := (fault.span :: fault.flaw.earlier?.toList).filter fun s =>
    s.start.line = line ∧ s.stop.line = line
  match onLine with
  | [a, b] => if b.start.le a.start then [b, a] else [a, b]
  | spans => spans

/-- Carets under the spans of a line, from the column after `column` characters on. -/
def carets (column : Nat) : List Span → List Char
  | [] => []
  | span :: rest =>
    let gap := (span.start.column - 1) - column
    let width := max 1 (span.stop.column - span.start.column)
    List.replicate gap ' ' ++ List.replicate width '^' ++ carets (column + gap + width) rest

/-- A line of the pattern after its label, and the carets under it if a span lies on it. -/
def annotated (fault : Fault) (label : Nat → String) (padding line : Nat) (text : String) :
    List String :=
  let notes := match fault.spansOnLine line with
    | [] => []
    | spans => [String.ofList (List.replicate padding ' ' ++ carets 0 spans)]
  (label line ++ text) :: notes

/-- Where a span over several lines lies. -/
def lineNote (span : Span) : String :=
  s!"on line {span.start.line} (column {span.start.column}) " ++
    s!"through line {span.stop.line} (column {span.stop.column - 1})"

/-- The message of a fault in a pattern. -/
def Fault.message (pattern : String) (fault : Fault) : String :=
  let lines := Text.lines pattern
  let count := lines.length + (if pattern.toList.getLast? = some '\n' then 1 else 0)
  let width := if count ≤ 1 then 0 else (Nat.toDigits 10 count).length
  let padding := if width = 0 then 4 else width + 2
  let label (line : Nat) : String :=
    if width = 0 then "    "
    else
      let digits := Nat.toDigits 10 line
      String.ofList (List.replicate (width - digits.length) ' ' ++ digits ++ [':', ' '])
  let body := (lines.zipIdx 1).flatMap fun (text, line) => annotated fault label padding line text
  let shown := String.join (body.map (· ++ "\n"))
  if pattern.toList.contains '\n' then
    let divider := String.ofList (List.replicate 79 '~') ++ "\n"
    let spread := (fault.span :: fault.flaw.earlier?.toList).filter fun s =>
      s.start.line ≠ s.stop.line
    let notes := match spread with
      | [] => ""
      | spans => String.intercalate "\n" (spans.map lineNote) ++ "\n"
    "regex parse error:\n" ++ divider ++ shown ++ divider ++ notes ++ "error: " ++
      fault.flaw.message
  else "regex parse error:\n" ++ shown ++ "error: " ++ fault.flaw.message

/-- The message of an error. -/
def Error.message : Error → String
  | .flawed pattern fault => fault.message pattern
  | .tooLarge limit => s!"Compiled regex exceeds size limit of {limit} bytes."

end ResponseCheck.Pattern
