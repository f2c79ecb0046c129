import ResponseCheck.Json.Basic
import ResponseCheck.Text.Utf8

/-!
# Reading JSON text

The reader works on bytes. A failed step keeps the bytes that were unread at the point of failure,
so that the line and column of an error are a function of the input and that rest alone. Containers
nest at most 127 deep.

Numbers without point or exponent are integers when they fit 64 bits, signed or unsigned; all others
are binary numbers. Their digits are gathered in an unsigned word of 64 bits; digits that no longer
fit only move the decimal exponent or are dropped, and the word is scaled by powers of ten with one
rounding a step.
-/

namespace ResponseCheck.Json

/-- Where the bytes come from. Both look one byte ahead; only a stream counts that byte as read
when the position of a number out of range is reported. -/
inductive Source where
  | buffer
  | stream
deriving DecidableEq, Repr

namespace Reading

/-- Why a text is no JSON document. -/
inductive Cause where
  | endInArray
  | endInObject
  | endInString
  | endInValue
  | expectedColon
  | expectedCommaOrBracket
  | expectedCommaOrBrace
  | expectedLiteral
  | expectedValue
  | invalidEscape
  | invalidNumber
  | numberOutOfRange
  | invalidCodePoint
  | controlCharacter
  | keyMustBeString
  | loneSurrogate
  | trailingComma
  | trailingCharacters
  | unfinishedSurrogatePair
  | nestingTooDeep
deriving DecidableEq, Repr

/-- The message of a cause. -/
def Cause.message : Cause → String
  | .endInArray => "EOF while parsing a list"
  | .endInObject => "EOF while parsing an object"
  | .endInString => "EOF while parsing a string"
  | .endInValue => "EOF while parsing a value"
  | .expectedColon => "expected `:`"
  | .expectedCommaOrBracket => "expected `,` or `]`"
  | .expectedCommaOrBrace => "expected `,` or `\x7d`"
  | .expectedLiteral => "expected ident"
  | .expectedValue => "expected value"
  | .invalidEscape => "invalid escape"
  | .invalidNumber => "invalid number"
  | .numberOutOfRange => "number out of range"
  | .invalidCodePoint => "invalid unicode code point"
  | .controlCharacter => "control character (\\u0000-\\u001F) found while parsing a string"
  | .keyMustBeString => "key must be a string"
  | .loneSurrogate => "lone leading surrogate in hex escape"
  | .trailingComma => "trailing comma"
  | .trailingCharacters => "trailing characters"
  | .unfinishedSurrogatePair => "unexpected end of hex escape"
  | .nestingTooDeep => "recursion limit exceeded"

/-- A failed step: its cause, and the bytes after the reported position. -/
structure Fault where
  cause : Cause
  unread : List UInt8
deriving DecidableEq, Repr

/-- A step of the reader: a result and the unread bytes, or a fault. -/
abbrev Step (α : Type) := List UInt8 → Except Fault (α × List UInt8)

/-- Fails at the current position. -/
def failHere {α : Type} (cause : Cause) (s : List UInt8) : Except Fault α := .error ⟨cause, s⟩

/-- Fails at the position after the next byte. -/
def failNext {α : Type} (cause : Cause) (s : List UInt8) : Except Fault α :=
  .error ⟨cause, s.tail⟩

/-- JSON blanks. -/
def isBlank (b : UInt8) : Bool := b == 0x20 || b == 0x0A || b == 0x09 || b == 0x0D

/-- Drops leading blanks. -/
def skipBlanks (s : List UInt8) : List UInt8 := s.dropWhile isBlank

/-- A decimal digit. -/
def isDigit (b : UInt8) : Bool := 0x30 ≤ b && b ≤ 0x39

/-- The value of a decimal digit. -/
def digitValue (b : UInt8) : Nat := b.toNat - 0x30

/-- Reads the remaining letters of a literal. -/
def letters : List UInt8 → Step Unit
  | [], s => .ok ((), s)
  | _ :: _, [] => failHere .endInValue []
  | c :: cs, b :: s => if b == c then letters cs s else failHere .expectedLiteral s

/-- The value of a hexadecimal digit. -/
def hexValue? (b : UInt8) : Option Nat :=
  if isDigit b then some (digitValue b)
  else if 0x61 ≤ b && b ≤ 0x66 then some (b.toNat - 0x57)
  else if 0x41 ≤ b && b ≤ 0x46 then some (b.toNat - 0x37)
  else none

/-- Reads four hexadecimal digits. -/
def hexUnit : Step Nat
  | a :: b :: c :: d :: s =>
    match hexValue? a, hexValue? b, hexValue? c, hexValue? d with
    | some a, some b, some c, some d => .ok (((a * 16 + b) * 16 + c) * 16 + d, s)
    | _, _, _, _ => failHere .invalidEscape s
  | _ => failHere .endInString []

/-- Reads the rest of a hexadecimal escape, which is one unit or a pair of surrogates. -/
def hexEscape : Step Char := fun s => do
  let (high, s) ← hexUnit s
  -- A low surrogate comes only after a high one, and a high one only before a low one.
  if 0xDC00 ≤ high ∧ high ≤ 0xDFFF then failHere .loneSurrogate s
  else if high < 0xD800 ∨ 0xDBFF < high then return (Char.ofNat high, s)
  else match s with
    | [] => failHere .endInString []
    | b :: s =>
      if b != 0x5C then failHere .unfinishedSurrogatePair s
      else match s with
        | [] => failHere .endInString []
        | b :: s =>
          if b != 0x75 then failHere .unfinishedSurrogatePair s
          else
            let (low, s) ← hexUnit s
            if low < 0xDC00 ∨ 0xDFFF < low then failHere .loneSurrogate s
            else return (Char.ofNat ((high - 0xD800) * 1024 + (low - 0xDC00) + 0x10000), s)

/-- Reads an escape after its backslash. -/
def escapeSequence : Step Char
  | [] => failHere .endInString []
  | b :: s =>
    if b == 0x22 then .ok ('"', s)
    else if b == 0x5C then .ok ('\\', s)
    else if b == 0x2F then .ok ('/', s)
    else if b == 0x62 then .ok ('\x08', s)
    else if b == 0x66 then .ok ('\x0c', s)
    else if b == 0x6E then .ok ('\n', s)
    else if b == 0x72 then .ok ('\r', s)
    else if b == 0x74 then .ok ('\t', s)
    else if b == 0x75 then hexEscape s
    else failHere .invalidEscape s

/-- Reads the bytes of a string up to its closing quote. The fuel bounds the number of steps; the
length of the input is enough. -/
def stringBytes : (fuel : Nat) → Step (List UInt8)
  | 0, s => failHere .endInString s
  | _ + 1, [] => failHere .endInString []
  | fuel + 1, b :: s =>
    if b == 0x22 then .ok ([], s)
    else if b == 0x5C then do
      let (c, s) ← escapeSequence s
      let (bytes, s) ← stringBytes fuel s
      return (String.utf8EncodeChar c ++ bytes, s)
    else if b < 0x20 then failHere .controlCharacter s
    else do
      let (bytes, s) ← stringBytes fuel s
      return (b :: bytes, s)

/-- Fails at the first of some bytes that belongs to no character, if there is one. -/
def failAtBadByte {α : Type} (bytes : List UInt8) : Except Fault α :=
  match Utf8.decode bytes with
  | .ok _ => failHere .invalidCodePoint bytes
  | .error error => failNext .invalidCodePoint (bytes.drop error.index)

/-- Reads a string after its opening quote. -/
def string : Step String := fun s => do
  let (bytes, rest) ← stringBytes (s.length + 1) s
  match Utf8.decode bytes with
  | .ok text => return (text, rest)
  -- Escapes stand for whole characters, so the first bad byte is one of the input.
  | .error _ => failAtBadByte s

/-- The greatest word of 64 bits. -/
def maxWord : Nat := 0xFFFFFFFFFFFFFFFF

/-- The nearest binary number to a power of ten, up to `10 ^ 308`. -/
def powerOfTen? (n : Nat) : Option Binary64 := Binary64.ofDecimal? false 1 n

/-- Divides by `10 ^ 308` until the exponent is at least `-308` or the number is zero. -/
def scaleDown : (steps : Nat) → Binary64 → Option Binary64
  | 0, x => some x
  | steps + 1, x =>
    if x.isZero then some x
    else do scaleDown steps (← x.div? (← powerOfTen? 308))

/-- The number `digits * 10 ^ exponent`, rounded after each scaling by a power of ten. -/
def scaled? (digits : Nat) (exponent : Int) : Option Binary64 := do
  let x ← Binary64.ofInt? digits
  -- Greater powers of ten have no binary number of their own.
  if 308 < exponent then
    if x.isZero then some x else none
  else if 0 ≤ exponent then x.mul? (← powerOfTen? exponent.toNat)
  else
    let steps := (exponent.natAbs - 1) / 308
    let x ← scaleDown steps x
    x.div? (← powerOfTen? (exponent.natAbs - 308 * steps))

/-- A position that looks one byte ahead, as the source reports it. -/
def ahead (source : Source) (s : List UInt8) : List UInt8 :=
  match source with
  | .buffer => s
  | .stream => s.tail

/-- A binary number of the given parts. -/
def binary (source : Source) (negative : Bool) (digits : Nat) (exponent : Int) : Step Number :=
  fun s =>
    match scaled? digits exponent with
    | some x => .ok (.float (if negative then x.neg else x), s)
    | none => failHere .numberOutOfRange (ahead source s)

/-- The greatest exponent that is read; a longer one decides the number by its sign alone. -/
def maxExponent : Nat := 0x7FFFFFFF

/-- Reads the digits of an exponent onto those read so far; `none` if it grows too large. -/
def exponentDigits (read : Nat) : List UInt8 → Option Nat × List UInt8
  | [] => (some read, [])
  | b :: s =>
    if isDigit b then
      if maxExponent < read * 10 + digitValue b then (none, s)
      else exponentDigits (read * 10 + digitValue b) s
    else (some read, b :: s)

/-- Reads an exponent after its letter, and makes the number. -/
def exponentPart (source : Source) (negative : Bool) (digits : Nat) (shift : Int) : Step Number :=
  fun s =>
    let (down, s) := match s with
      | 0x2B :: s => (false, s)
      | 0x2D :: s => (true, s)
      | s => (false, s)
    match s with
    | [] => failHere .endInValue []
    | b :: s =>
      if !isDigit b then failHere .invalidNumber s
      else match exponentDigits (digitValue b) s with
        | (some e, s) =>
          binary source negative digits (if down then shift - e else shift + e) s
        | (none, s) =>
          -- The number overflows, or it is so small that it counts as zero.
          if digits ≠ 0 ∧ !down then failHere .numberOutOfRange s
          else
            .ok (.float { Binary64.zero with negative := negative }, s.dropWhile isDigit)

/-- Whether a byte starts an exponent. -/
def isExponentMark (b : UInt8) : Bool := b == 0x65 || b == 0x45

/-- Reads an exponent if there is one, and makes the number. -/
def exponentOrEnd (source : Source) (negative : Bool) (digits : Nat) (shift : Int) : Step Number
  | [] => binary source negative digits shift []
  | b :: s =>
    if isExponentMark b then exponentPart source negative digits shift s
    else binary source negative digits shift (b :: s)

/-- Reads digits after the point while the word holds them: the digits, how many were read, and
whether one no longer fit. -/
def fractionDigits (digits count : Nat) : List UInt8 → (Nat × Nat × Bool) × List UInt8
  | [] => ((digits, count, false), [])
  | b :: s =>
    if isDigit b then
      if maxWord < digits * 10 + digitValue b then ((digits, count, true), b :: s)
      else fractionDigits (digits * 10 + digitValue b) (count + 1) s
    else ((digits, count, false), b :: s)

/-- Reads a fraction after its point, and makes the number. -/
def fractionPart (source : Source) (negative : Bool) (digits : Nat) (shift : Int) : Step Number :=
  fun s =>
    match fractionDigits digits 0 s with
    | ((digits, count, true), s) =>
      -- Digits that do not fit the word are dropped; they would only change its last place.
      exponentOrEnd source negative digits (shift - count) (s.dropWhile isDigit)
    | ((_, 0, false), []) => failHere .endInValue []
    | ((_, 0, false), s) => failNext .invalidNumber s
    | ((digits, count, false), s) => exponentOrEnd source negative digits (shift - count) s

/-- The number of an integer part with nothing after it: zero with a sign, and what does not fit
64 bits, are binary numbers. -/
def whole (source : Source) (negative : Bool) (digits : Nat) : Step Number := fun s =>
  if !negative then .ok (.int digits, s)
  else if digits = 0 ∨ 0x8000000000000000 < digits then binary source true digits 0 s
  else .ok (.int (-digits), s)

/-- Reads what follows an integer part that fits the word. -/
def afterInteger (source : Source) (negative : Bool) (digits : Nat) : Step Number
  | [] => whole source negative digits []
  | b :: s =>
    if b == 0x2E then fractionPart source negative digits 0 s
    else if isExponentMark b then exponentPart source negative digits 0 s
    else whole source negative digits (b :: s)

/-- Reads what follows the integer digits that fit the word, when more digits follow. -/
def afterLongInteger (source : Source) (negative : Bool) (digits : Nat) : Step Number := fun s =>
  -- Each digit that is passed over is a factor of ten.
  let rest := s.dropWhile isDigit
  let shift : Int := (s.length - rest.length : Nat)
  match rest with
  | [] => binary source negative digits shift []
  | b :: t =>
    if b == 0x2E then fractionPart source negative digits shift t
    else exponentOrEnd source negative digits shift (b :: t)

/-- Reads digits of an integer part while the word holds them. -/
def integerDigits (source : Source) (negative : Bool) (digits : Nat) : Step Number
  | [] => afterInteger source negative digits []
  | b :: s =>
    if isDigit b then
      if maxWord < digits * 10 + digitValue b then
        afterLongInteger source negative digits (b :: s)
      else integerDigits source negative (digits * 10 + digitValue b) s
    else afterInteger source negative digits (b :: s)

/-- Reads a number after its sign. -/
def number (source : Source) (negative : Bool) : Step Number
  | [] => failHere .endInValue []
  | b :: s =>
    if b == 0x30 then
      match s with
      | c :: t => if isDigit c then failHere .invalidNumber t else afterInteger source negative 0 s
      | [] => afterInteger source negative 0 []
    else if isDigit b then integerDigits source negative (digitValue b) s
    else failHere .invalidNumber s

/-- Reads the items of an array after its opening bracket. The fuel bounds the number of items;
the length of the input is enough. -/
def items (value : Step Json) : (fuel : Nat) → (first : Bool) → Step (List Json)
  | 0, _, s => failHere .endInArray s
  | fuel + 1, first, s =>
    match skipBlanks s with
    | [] => failHere .endInArray []
    | b :: s =>
      if b == 0x5D then .ok ([], s)
      else if first then do
        let (v, s) ← value (b :: s)
        let (vs, s) ← items value fuel false s
        return (v :: vs, s)
      else if b == 0x2C then
        match skipBlanks s with
        | [] => failHere .endInValue []
        | c :: s =>
          if c == 0x5D then failHere .trailingComma s
          else do
            let (v, s) ← value (c :: s)
            let (vs, s) ← items value fuel false s
            return (v :: vs, s)
      else failHere .expectedCommaOrBracket s

/-- Reads an entry of an object after the opening quote of its name. -/
def entry (value : Step Json) : Step (String × Json) := fun s => do
  let (name, s) ← string s
  match skipBlanks s with
  | [] => failHere .endInObject []
  | b :: s =>
    if b != 0x3A then failHere .expectedColon s
    else
      let (v, s) ← value s
      return ((name, v), s)

/-- Reads the entries of an object after its opening brace. The fuel bounds the number of entries;
the length of the input is enough. -/
def entries (value : Step Json) : (fuel : Nat) → (first : Bool) → Step (List (String × Json))
  | 0, _, s => failHere .endInObject s
  | fuel + 1, first, s =>
    match skipBlanks s with
    | [] => failHere .endInObject []
    | b :: s =>
      if b == 0x7D then .ok ([], s)
      else if first then
        if b != 0x22 then failHere .keyMustBeString s
        else do
          let (e, s) ← entry value s
          let (es, s) ← entries value fuel false s
          return (e :: es, s)
      else if b == 0x2C then
        match skipBlanks s with
        | [] => failHere .endInValue []
        | c :: s =>
          if c == 0x7D then failHere .trailingComma s
          else if c != 0x22 then failHere .keyMustBeString s
          else do
            let (e, s) ← entry value s
            let (es, s) ← entries value fuel false s
            return (e :: es, s)
      else failHere .expectedCommaOrBrace s

/-- Reads a value that may hold containers nested `depth - 1` deep. -/
def value (source : Source) : (depth : Nat) → Step Json
  | 0, s => failNext .nestingTooDeep (skipBlanks s)
  | depth + 1, s =>
    match skipBlanks s with
    | [] => failHere .endInValue []
    | b :: s =>
      if b == 0x6E then (fun (_, s) => (.null, s)) <$> letters [0x75, 0x6C, 0x6C] s
      else if b == 0x74 then (fun (_, s) => (.bool true, s)) <$> letters [0x72, 0x75, 0x65] s
      else if b == 0x66 then
        (fun (_, s) => (.bool false, s)) <$> letters [0x61, 0x6C, 0x73, 0x65] s
      else if b == 0x2D then (fun (n, s) => (.num n, s)) <$> number source true s
      else if isDigit b then (fun (n, s) => (.num n, s)) <$> number source false (b :: s)
      else if b == 0x22 then (fun (t, s) => (.str t, s)) <$> string s
      else if b == 0x5B then
        -- The last level is left for values without parts.
        if depth = 0 then failHere .nestingTooDeep s
        else (fun (vs, s) => (.arr vs, s)) <$> items (value source depth) (s.length + 1) true s
      else if b == 0x7B then
        if depth = 0 then failHere .nestingTooDeep s
        else (fun (es, s) => (object es, s)) <$> entries (value source depth) (s.length + 1) true s
      else failHere .expectedValue s

/-- Reads a value with nothing but blanks after it. -/
def document (source : Source) (s : List UInt8) : Except Fault Json := do
  let (v, s) ← value source 128 s
  match skipBlanks s with
  | [] => return v
  | _ :: s => failHere .trailingCharacters s

end Reading

/-- A text that is no JSON document, with the place where that showed. -/
structure ReadError where
  cause : Reading.Cause
  line : Nat
  column : Nat
deriving DecidableEq, Repr

/-- The message of a reading error. -/
def ReadError.message (e : ReadError) : String :=
  s!"{e.cause.message} at line {e.line} column {e.column}"

/-- The line and column after the given bytes: a line feed ends a line. -/
def position (bytes : List UInt8) : Nat × Nat :=
  bytes.foldl
    (fun (line, column) (b : UInt8) => if b == 0x0A then (line + 1, 0) else (line, column + 1))
    (1, 0)

/-- Reads a JSON document. -/
def read (source : Source) (bytes : List UInt8) : Except ReadError Json :=
  match Reading.document source bytes with
  | .ok v => .ok v
  | .error fault =>
    let (line, column) := position (bytes.take (bytes.length - fault.unread.length))
    .error ⟨fault.cause, line, column⟩

end ResponseCheck.Json
