import ResponseCheck.Number.Extended

/-!
# TOML values

A document is a table. Tables differ in how they came to be, because that decides what may still be
added to them. Values and keys keep the part of the text that they were read from; places in the
text are given by the number of characters that are left.
-/

namespace ResponseCheck.Toml

/-- A part of a text, given by the numbers of characters that are left at its ends. -/
structure Span where
  start : Nat
  stop : Nat
deriving DecidableEq, Repr

/-- A key, and where it is written. -/
structure Key where
  name : String
  span : Span
deriving DecidableEq, Repr

/-- Values without parts. -/
inductive Scalar where
  | string (text : String)
  | integer (value : Int)
  | float (value : Extended)
  | bool (value : Bool)
  /-- A date, a time of day, or both. -/
  | moment (text : String)
deriving DecidableEq, Repr

/-- How a table came to be. -/
inductive Origin where
  /-- By a header, or as the document itself. -/
  | header (span : Span)
  /-- On the way to a table with a header. -/
  | implied
  /-- By a key with dots. -/
  | dotted
  /-- By braces. -/
  | inline (span : Span)
deriving DecidableEq, Repr

/-- A value. -/
inductive Value where
  | scalar (span : Span) (value : Scalar)
  | array (span : Span) (items : List Value)
  | table (origin : Origin) (entries : List (Key × Value))
  /-- The tables with headers in double brackets, each with its header, the last one first. -/
  | tables (items : List (Span × List (Key × Value)))
deriving Repr

/-- The part of the text that a value was read from, if it is in one piece. -/
def Value.span? : Value → Option Span
  | .scalar span _ => some span
  | .array span _ => some span
  | .table (.header span) _ => some span
  | .table (.inline span) _ => some span
  | .table _ _ => none
  | .tables items => do
    let last ← items.head?
    let first ← items.getLast?
    return ⟨first.1.start, last.1.stop⟩

/-- The parts of a document that errors name. -/
inductive Part where
  | key | string | basicString | literalString | longBasicString | longLiteralString
  | escape | codePoint (length : Nat) | integer | basedInteger (base : Nat) | float
  | dateTime | time | array | inlineTable | header
deriving DecidableEq, Repr

/-- The words for a part. -/
def Part.words : Part → String
  | .key => "key"
  | .string => "string"
  | .basicString => "basic string"
  | .literalString => "literal string"
  | .longBasicString => "multiline basic string"
  | .longLiteralString => "multiline literal string"
  | .escape => "escape sequence"
  | .codePoint length => s!"unicode {length}-digit hex code"
  | .integer => "integer"
  | .basedInteger 16 => "hexadecimal integer"
  | .basedInteger 8 => "octal integer"
  | .basedInteger _ => "binary integer"
  | .float => "floating-point number"
  | .dateTime => "date-time"
  | .time => "time"
  | .array => "array"
  | .inlineTable => "inline table"
  | .header => "table header"

/-- Why a well formed part has no place in its document. -/
inductive Cause where
  /-- The key is there already, in a table of some path if it is told. -/
  | duplicateKey (name : String) (table : Option (List String))
  /-- A path of keys leads through a value that is no table. -/
  | notTable (path : List String) (type : String)
  | nestingTooDeep
  | integerTooLarge
  | integerTooSmall
  | outOfRange
deriving DecidableEq, Repr

/-- The message of a cause. -/
def Cause.message : Cause → String
  | .duplicateKey name none => s!"duplicate key `{name}`"
  | .duplicateKey name (some []) => s!"duplicate key `{name}` in document root"
  | .duplicateKey name (some path) =>
    s!"duplicate key `{name}` in table `" ++ String.intercalate "." path ++ "`"
  | .notTable path type =>
    "dotted key `" ++ String.intercalate "." path
      ++ s!"` attempted to extend non-table type ({type})"
  | .nestingTooDeep => "recursion limit exceeded"
  | .integerTooLarge => "number too large to fit in target type"
  | .integerTooSmall => "number too small to fit in target type"
  | .outOfRange => "value is out of range"

/-- Why a text is no document: how many characters were left, the innermost part that was being
read, what could have followed, and what else is wrong. -/
structure SyntaxError where
  left : Nat
  part : Option Part := none
  expected : List String := []
  cause : Option Cause := none
deriving DecidableEq, Repr

namespace SyntaxError

/-- The message of an error. -/
def message (e : SyntaxError) : String :=
  let part := e.part.toList.map fun part => "invalid " ++ part.words
  let expected :=
    if e.expected.isEmpty then [] else ["expected " ++ String.intercalate ", " e.expected]
  String.intercalate "\n" (part ++ expected ++ e.cause.toList.map Cause.message)

/-- The error as one of a part, unless it is one of an inner part. -/
def within (part : Part) (e : SyntaxError) : SyntaxError :=
  { e with part := e.part <|> some part }

end SyntaxError

/-- A step that reads a part of a text. -/
abbrev Step (α : Type) := List Char → Except SyntaxError (α × List Char)

/-- Fails here, where one of some things was expected. -/
def fail {α : Type} (expected : List String) (s : List Char) : Except SyntaxError α :=
  .error { left := s.length, expected }

/-- Fails here for a cause. -/
def refuse {α : Type} (cause : Cause) (s : List Char) : Except SyntaxError α :=
  .error { left := s.length, cause := some cause }

/-- The step as one that reads a part. -/
def Step.within {α : Type} (part : Part) (step : Step α) : Step α := fun s =>
  (step s).mapError (·.within part)

/-- Reads a given character. -/
def expect (c : Char) (expected : List String) : Step Unit := fun s =>
  match s with
  | d :: rest => if d == c then .ok ((), rest) else fail expected s
  | [] => fail expected s

/-- The part of a text before a rest of it. -/
def before (s rest : List Char) : List Char := s.take (s.length - rest.length)

/-- The span between two rests of a text. -/
def spanOf (s rest : List Char) : Span := ⟨s.length, rest.length⟩

/-! ### Blanks and comments -/

/-- Blanks: space and tab. -/
def isBlank (c : Char) : Bool := c == ' ' || c == '\t'

/-- Moves over blanks. -/
def skipBlanks (s : List Char) : List Char := s.dropWhile isBlank

/-- Printable characters: no control characters but the tab. -/
def isPrintable (c : Char) : Bool := c == '\t' || (0x20 ≤ c.toNat && c.toNat != 0x7F)

/-- Moves over a comment, if there is one. -/
def skipComment : List Char → List Char
  | '#' :: rest => rest.dropWhile isPrintable
  | s => s

/-- Moves over a line end. -/
def newline? : List Char → Option (List Char)
  | '\n' :: rest => some rest
  | '\r' :: '\n' :: rest => some rest
  | _ => none

/-- Reads the end of a line: blanks, a comment, and a line end or the end of the text. -/
def lineEnd : Step Unit := fun s =>
  match skipComment (skipBlanks s) with
  | [] => .ok ((), [])
  | s =>
    match newline? s with
    | some rest => .ok ((), rest)
    | none => fail ["newline", "`#`"] s

/-- Moves over blanks, line ends and comments. A comment ends with a line end. The fuel bounds the
number of lines. -/
def skipLines : (fuel : Nat) → Step Unit
  | 0, s => .ok ((), s)
  | fuel + 1, s =>
    let s := skipBlanks s
    match s with
    | '#' :: _ =>
      match newline? (skipComment s) with
      | some rest => skipLines fuel rest
      | none => fail [] (skipComment s)
    | '\r' :: _ =>
      match newline? s with
      | some rest => skipLines fuel rest
      | none => fail [] s
    | '\n' :: rest => skipLines fuel rest
    | _ => .ok ((), s)

end ResponseCheck.Toml
