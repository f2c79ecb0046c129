import ResponseCheck.Text.Utf8
import ResponseCheck.Yaml.Cursor
import ResponseCheck.Yaml.Token

/-! Anchors and tags stand in front of the node that they belong to. Directives stand in front of a
document, and may give a text for the handles of its tags. -/

namespace ResponseCheck.Yaml.Property

/-- Whether a character may follow an anchor or alias, blanks and breaks apart. -/
def endsAnchor (x : Char) : Bool :=
  x == '?' || x == ':' || x == ',' || x == ']' || x == '\x7d' || x == '%' || x == '@' || x == '`'

/-- Reads the name of an anchor or alias at its indicator. -/
def anchor (context : Context) (c : Cursor) : Except SyntaxError (String × Cursor) :=
  let start := c.mark
  let (name, c) := (c.skip 1).takeWhile isWord
  if name.isEmpty || !(c.gapAt 0 || c.aheadIs 0 endsAnchor) then
    c.fail .anchorName context start
  else .ok (String.ofList name, c)

/-- The contexts of errors in tags, and in the directives that define their handles. -/
structure TagContext where
  inDirective : Bool
  handle : Context
  uri : Context

/-- Tags of nodes. -/
def nodeContext : TagContext := ⟨false, .tag, .tagUri⟩

/-- Tags in directives. -/
def directiveContext : TagContext := ⟨true, .tagDirectiveHandle, .tagDirectiveUri⟩

/-- Reads a tag handle: a mark, or a word between marks. A word after a mark alone belongs to the
tag itself. -/
def tagHandle (context : TagContext) (start : Mark) (c : Cursor) :
    Except SyntaxError (List Char × Cursor) :=
  if !c.startsWith '!' then c.fail .tagMark context.handle start
  else
    let (word, c) := (c.skip 1).takeWhile isWord
    if c.startsWith '!' then .ok ('!' :: word ++ ['!'], c.skip 1)
    else if context.inDirective && !word.isEmpty then c.fail .tagMark context.uri start
    else .ok ('!' :: word, c)

/-- The characters of tags. Those of flow sequences are allowed in some places only. -/
def isUriChar (withFlow : Bool) (x : Char) : Bool :=
  isWord x || ";/?:@&=+$.%!~*'()".toList.contains x
    || (withFlow && (x == ',' || x == '[' || x == ']'))

/-- Reads an octet that is written as a percent sign and two hexadecimal digits. -/
def octet (context : TagContext) (start : Mark) (c : Cursor) :
    Except SyntaxError (Nat × Cursor) :=
  let digit (n : Nat) : Option Nat :=
    (c.ahead? n).bind fun x =>
      if x.isDigit then some (x.toNat - 48)
      else if 'a' ≤ x && x ≤ 'f' then some (x.toNat - 87)
      else if 'A' ≤ x && x ≤ 'F' then some (x.toNat - 55)
      else none
  match c.startsWith '%', digit 1, digit 2 with
  | true, some high, some low => .ok (high * 16 + low, c.skip 3)
  | _, _, _ => c.fail .uriEscape context.uri start

/-- Reads the octets of a character after its first one. -/
def octetTail (context : TagContext) (start : Mark) : (count : Nat) → Cursor →
    Except SyntaxError (List UInt8 × Cursor)
  | 0, c => .ok ([], c)
  | count + 1, c => do
    let (n, next) ← octet context start c
    if n / 64 ≠ 2 then c.fail .uriTail context.uri start
    else
      let (rest, c) ← octetTail context start count next
      return (UInt8.ofNat n :: rest, c)

/-- How many octets follow the first octet of a character. -/
def tailLength? (n : Nat) : Option Nat :=
  if n < 0x80 then some 0
  else if n / 32 = 6 then some 1
  else if n / 16 = 14 then some 2
  else if n / 8 = 30 then some 3
  else none

/-- Reads the octets of an escaped character. -/
def escapedChar (context : TagContext) (start : Mark) (c : Cursor) :
    Except SyntaxError (List UInt8 × Cursor) := do
  let (n, next) ← octet context start c
  match tailLength? n with
  | none => c.fail .uriLead context.uri start
  | some count =>
    let (rest, c) ← octetTail context start count next
    return (UInt8.ofNat n :: rest, c)

/-- Reads the octets of a tag. The fuel bounds their number. -/
def uriBytes (context : TagContext) (withFlow : Bool) (start : Mark) : (fuel : Nat) → Cursor →
    Except SyntaxError (List UInt8 × Cursor)
  | 0, c => .ok ([], c)
  | fuel + 1, c => do
    match c.ahead? 0 with
    | none => return ([], c)
    | some x =>
      if !isUriChar withFlow x then return ([], c)
      else
        let (bytes, c) ←
          if x == '%' then escapedChar context start c
          else pure (String.utf8EncodeChar x, c.skip 1)
        let (rest, c) ← uriBytes context withFlow start fuel c
        return (bytes ++ rest, c)

/-- Reads a tag after the text that was read as its handle. -/
def uri (context : TagContext) (withFlow : Bool) (head : List Char) (start : Mark) (c : Cursor) :
    Except SyntaxError (String × Cursor) := do
  let (bytes, next) ← uriBytes context withFlow start c.rest.length c
  if head.isEmpty && bytes.isEmpty then next.fail .tagUri context.uri start
  else
    let text := String.ofList head.tail ++ Utf8.decodeLossy bytes
    return (text, next)

/-- Reads a tag at its mark. -/
def tag (inFlow : Bool) (c : Cursor) : Except SyntaxError (TagName × Cursor) := do
  let start := c.mark
  let (name, c) ←
    if c.aheadIs 1 (· == '<') then
      let (suffix, c) ← uri nodeContext true [] start (c.skip 2)
      if c.startsWith '>' then pure (TagName.mk "" suffix, c.skip 1)
      else c.fail .tagClose .tag start
    else
      let (handle, c) ← tagHandle nodeContext start c
      if 1 < handle.length && handle.getLast? == some '!' then
        let (suffix, c) ← uri nodeContext false [] start c
        pure (TagName.mk (String.ofList handle) suffix, c)
      else
        let (suffix, c) ← uri nodeContext false handle start c
        pure (if suffix.isEmpty then TagName.mk "" "!" else TagName.mk "!" suffix, c)
  if (inFlow && c.startsWith ',') || c.gapAt 0 then return (name, c)
  else c.fail .missingBlankOrBreak .tag start

/-- Reads a number of a version. -/
def versionNumber (start : Mark) (c : Cursor) : Except SyntaxError (Nat × Cursor) :=
  let (digits, c) := c.takeWhile Char.isDigit
  if 9 < digits.length then c.fail .longVersion .versionDirective start
  else if digits.isEmpty then c.fail .missingVersion .versionDirective start
  else .ok (digits.foldl (fun n x => n * 10 + (x.toNat - '0'.toNat)) 0, c)

/-- Reads the version after the name of its directive. -/
def version (start : Mark) (c : Cursor) : Except SyntaxError (TokenKind × Cursor) := do
  let (major, c) ← versionNumber start (c.skipWhile isBlank)
  if !c.startsWith '.' then c.fail .versionDigit .versionDirective start
  else
    let (minor, c) ← versionNumber start (c.skip 1)
    return (.version major minor, c)

/-- Reads a handle and its expansion after the name of their directive. -/
def tagDefinition (start : Mark) (c : Cursor) : Except SyntaxError (TokenKind × Cursor) := do
  let (handle, c) ← tagHandle directiveContext start (c.skipWhile isBlank)
  if !c.aheadIs 0 isBlank then c.fail .missingBlank .tagDirective start
  else
    let (expansion, c) ← uri directiveContext true [] start (c.skipWhile isBlank)
    if !c.gapAt 0 then c.fail .missingBlankOrBreak .tagDirective start
    else return (.tagHandle (String.ofList handle) expansion, c)

/-- Reads the name of a directive. -/
def directiveName (start : Mark) (c : Cursor) : Except SyntaxError (String × Cursor) :=
  let (name, c) := c.takeWhile isWord
  if name.isEmpty then c.fail .directiveName .directive start
  else if !c.gapAt 0 then c.fail .directiveNameEnd .directive start
  else .ok (String.ofList name, c)

/-- Reads a directive at its indicator: gives its token, the place where it ends, and the next
line. -/
def directive (c : Cursor) : Except SyntaxError (TokenKind × Mark × Cursor) := do
  let start := c.mark
  let (name, c) ← directiveName start (c.skip 1)
  let (kind, c) ←
    match name with
    | "YAML" => version start c
    | "TAG" => tagDefinition start c
    | _ => c.fail .unknownDirective .directive start
  let stop := c.mark
  let c := (c.skipWhile isBlank).skipComment
  if !c.atLineEnd then c.fail .directiveEnd .directive start
  else return (kind, stop, c.lineBreak.2)

end ResponseCheck.Yaml.Property
