import ResponseCheck.Pattern.Error
import ResponseCheck.Unicode.Category
import ResponseCheck.Unicode.Property

/-!
# Reading patterns

A pattern is read from left to right; the first flaw on the way is reported. Open groups and open
bracketed classes are kept on stacks. With the flag `x`, blanks and comments between the parts of a
pattern are skipped. How deep a pattern nests is only looked at when all of it is read.
-/

namespace ResponseCheck.Pattern

/-- The unread characters and their place, whether blanks are skipped, how many groups capture, and
the names of groups. -/
structure Scanner where
  rest : List Char
  place : Position := ⟨1, 1⟩
  extended : Bool := false
  captures : Nat := 0
  names : List (String × Span) := []

namespace Scanner

/-- Moves past one character. -/
def advance (s : Scanner) : Scanner :=
  match s.rest with
  | [] => s
  | c :: rest => { s with rest, place := s.place.after c }

/-- Moves past the rest of a comment, its line feed included. -/
def skipComment : (fuel : Nat) → Scanner → Scanner
  | 0, s => s
  | fuel + 1, s =>
    match s.rest with
    | [] => s
    | '\n' :: _ => s.advance
    | _ => skipComment fuel s.advance

/-- Moves past blanks and comments. -/
def skipBlanksFrom : (fuel : Nat) → Scanner → Scanner
  | 0, s => s
  | fuel + 1, s =>
    match s.rest with
    | [] => s
    | c :: rest =>
      if Text.isBlank c then skipBlanksFrom fuel s.advance
      else if c = '#' then skipBlanksFrom fuel (skipComment rest.length s.advance)
      else s

/-- Moves past blanks and comments where the flag `x` is set. -/
def skipBlanks (s : Scanner) : Scanner :=
  if s.extended then skipBlanksFrom s.rest.length s else s

/-- Moves past one character and the blanks and comments after it. -/
def advanceSkip (s : Scanner) : Scanner := s.advance.skipBlanks

/-- The span of the next character. -/
def charSpan (s : Scanner) : Span := ⟨s.place, s.advance.place⟩

/-- The span from a place to the current one. -/
def spanFrom (s : Scanner) (start : Position) : Span := ⟨start, s.place⟩

/-- The character after the next one, past blanks where the flag `x` is set. -/
def peekSkip (s : Scanner) : Option Char :=
  let after := s.rest.drop 1
  if s.extended then
    go false after
  else after.head?
where
  /-- The first character that is no blank; a comment only hides its own number sign. -/
  go : Bool → List Char → Option Char
    | _, [] => none
    | inComment, c :: rest =>
      if Text.isBlank c && !(inComment && c == '\n') then go inComment rest
      else if !inComment && c == '#' then go true rest
      else if inComment && c == '\n' then go false rest
      else some c

/-- Moves past a text if it comes next. -/
def accept? (s : Scanner) (text : String) : Option Scanner :=
  if text.toList.isPrefixOf s.rest then
    some (text.toList.foldl (fun s _ => s.advance) s)
  else none

end Scanner

/-- A step on a scanner that may fail. -/
abbrev Parse := StateT Scanner (Except Fault)

/-- Fails with a flaw at a span. -/
def fail {α : Type} (flaw : Flaw) (span : Span) : Parse α := throw ⟨flaw, span⟩

/-- The place of the next character. -/
def place : Parse Position := return (← get).place

/-- The next character. -/
def peek? : Parse (Option Char) := return (← get).rest.head?

/-- Whether the pattern is at its end. -/
def atEnd : Parse Bool := return (← get).rest.isEmpty

/-- Whether the next character is `c`. -/
def nextIs (c : Char) : Parse Bool := return (← peek?) == some c

/-- Moves past one character; tells whether another one follows. -/
def advance : Parse Bool := do
  modify Scanner.advance
  return !(← atEnd)

/-- Moves past one character and blanks; tells whether another character follows. -/
def advanceSkip : Parse Bool := do
  modify Scanner.advanceSkip
  return !(← atEnd)

/-- Moves past a text if it comes next. -/
def accept (text : String) : Parse Bool := do
  match (← get).accept? text with
  | some s => set s; return true
  | none => return false

/-- Moves past the first of some texts that comes next. -/
def acceptOneOf : List String → Parse Bool
  | [] => return false
  | text :: texts => do
    if ← accept text then return true
    acceptOneOf texts

/-- A hexadecimal digit. -/
def isHexDigit (c : Char) : Bool :=
  c.isDigit || ('a' ≤ c && c ≤ 'f') || ('A' ≤ c && c ≤ 'F')

/-- The value of a hexadecimal digit. -/
def hexValue (c : Char) : Nat :=
  if c.isDigit then c.toNat - 48 else if 'a' ≤ c then c.toNat - 87 else c.toNat - 55

/-- The character with a hexadecimal code point. -/
def scalar? (digits : List Char) : Option Char :=
  let n := digits.foldl (fun n c => n * 16 + hexValue c) 0
  if n < 0xD800 || (0xDFFF < n && n ≤ 0x10FFFF) then some (Char.ofNat n) else none

/-- Reads hexadecimal digits of fixed number, of which `count` are left. -/
def hexDigits : (count : Nat) → (first : Bool) → Parse (List Char)
  | 0, _ => return []
  | count + 1, first => do
    if !first then
      if !(← advanceSkip) then fail .escapeUnexpectedEnd (.at (← place))
    match ← peek? with
    | none => fail .escapeUnexpectedEnd (.at (← place))
    | some c =>
      if !isHexDigit c then fail .escapeHexInvalidDigit (← get).charSpan
      else return c :: (← hexDigits count false)

/-- Reads hexadecimal digits up to a closing brace. -/
def bracedDigits (brace : Position) : (fuel : Nat) → Parse (List Char)
  | 0 => do fail .escapeUnexpectedEnd ((← get).spanFrom brace)
  | fuel + 1 => do
    if !(← advanceSkip) then fail .escapeUnexpectedEnd ((← get).spanFrom brace)
    match ← peek? with
    | some '\x7d' => return []
    | some c =>
      if !isHexDigit c then fail .escapeHexInvalidDigit (← get).charSpan
      else return c :: (← bracedDigits brace fuel)
    | none => fail .escapeUnexpectedEnd ((← get).spanFrom brace)

/-- Reads a hexadecimal escape from its letter on. -/
def hexLiteral : Parse Literal := do
  let letter ← peek?
  let count := if letter = some 'x' then 2 else if letter = some 'u' then 4 else 8
  if !(← advanceSkip) then fail .escapeUnexpectedEnd (.at (← place))
  if ← nextIs '\x7b' then
    let brace ← place
    let inner := (← get).charSpan.stop
    let digits ← bracedDigits brace ((← get).rest.length + 1)
    let stop ← place
    let _ ← advanceSkip
    if digits.isEmpty then fail .escapeHexEmpty ((← get).spanFrom brace)
    match scalar? digits with
    | none => fail .escapeHexInvalid ⟨inner, stop⟩
    | some c => return ⟨c, false⟩
  else
    let inner ← place
    let digits ← hexDigits count true
    let _ ← advanceSkip
    match scalar? digits with
    | none => fail .escapeHexInvalid ((← get).spanFrom inner)
    | some c => return ⟨c, count = 2⟩

/-- Reads the name in a braced Unicode class up to its closing brace. -/
def bracedName : (fuel : Nat) → Parse (List Char)
  | 0 => return []
  | fuel + 1 => do
    if !(← advanceSkip) then fail .escapeUnexpectedEnd (.at (← place))
    match ← peek? with
    | some '\x7d' => return []
    | some c => return c :: (← bracedName fuel)
    | none => fail .escapeUnexpectedEnd (.at (← place))

/-- Splits a list at the first occurrence of `mark`. -/
def splitAt? (mark : List Char) : List Char → Option (List Char × List Char)
  | [] => none
  | c :: rest =>
    if mark.isPrefixOf (c :: rest) then some ([], (c :: rest).drop mark.length)
    else (splitAt? mark rest).map fun (before, after) => (c :: before, after)

/-- The property that the text in the braces of a Unicode class asks for. -/
def propertyQuery (text : List Char) : PropertyQuery :=
  match splitAt? ['!', '='] text with
  | some (name, value) => .valued (String.ofList name) (String.ofList value) true
  | none =>
    match splitAt? [':'] text with
    | some (name, value) => .valued (String.ofList name) (String.ofList value) false
    | none =>
      match splitAt? ['='] text with
      | some (name, value) => .valued (String.ofList name) (String.ofList value) false
      | none => .named (String.ofList text)

/-- Reads a Unicode class from its letter on. -/
def unicodeClass : Parse (Bool × PropertyQuery) := do
  let negated ← nextIs 'P'
  if !(← advanceSkip) then fail .escapeUnexpectedEnd (.at (← place))
  match ← peek? with
  | some '\x7b' =>
    let name ← bracedName ((← get).rest.length + 1)
    let _ ← advance
    return (negated, propertyQuery name)
  | some '\\' => fail .unicodeClassInvalid (← get).charSpan
  | some c =>
    let _ ← advanceSkip
    return (negated, .named c.toString)
  | none => fail .escapeUnexpectedEnd (.at (← place))

/-- Reads letters and dashes, past blanks. -/
def boundaryName : (fuel : Nat) → Parse (List Char)
  | 0 => return []
  | fuel + 1 => do
    match ← peek? with
    | some c =>
      if c.isAlpha || c = '-' then
        let _ ← advanceSkip
        return c :: (← boundaryName fuel)
      else return []
    | none => return []

/-- Reads the braces of a special word boundary, if that is what follows `\b`. -/
def specialBoundary? (start : Position) : Parse (Option Look) := do
  let before ← get
  if !(← advanceSkip) then fail .specialBoundaryUnexpectedEnd ((← get).spanFrom start)
  let inner ← place
  match ← peek? with
  | some c =>
    if !(c.isAlpha || c = '-') then
      -- No name: the brace is the start of a repetition.
      set before
      return none
    let name ← boundaryName ((← get).rest.length + 1)
    if !(← nextIs '\x7d') then fail .specialBoundaryUnclosed ((← get).spanFrom before.place)
    let stop ← place
    let _ ← advance
    match String.ofList name with
    | "start" => return some .wordStart
    | "end" => return some .wordEnd
    | "start-half" => return some .wordStartHalf
    | "end-half" => return some .wordEndHalf
    | _ => fail .specialBoundaryUnrecognized ⟨inner, stop⟩
  | none => return none

/-- A part of a pattern that is no group, class or repetition. -/
inductive Primitive where
  | literal (value : Literal)
  | look (kind : Look)
  | property (negated : Bool) (query : PropertyQuery)
  | shorthand (negated : Bool) (kind : Shorthand)

/-- The characters that have a meaning of their own in a pattern. -/
def isMeta (c : Char) : Bool := "\\.+*?()|[]\x7b\x7d^$#&-~".toList.contains c

/-- The characters that may follow a backslash to stand for themselves. -/
def isEscapable (c : Char) : Bool :=
  c.toNat < 0x80 && !c.isAlphanum && c != '<' && c != '>'

/-- The one-letter classes. -/
def shorthand? : Char → Option (Bool × Shorthand)
  | 'd' => some (false, .digit)
  | 'D' => some (true, .digit)
  | 's' => some (false, .space)
  | 'S' => some (true, .space)
  | 'w' => some (false, .word)
  | 'W' => some (true, .word)
  | _ => none

/-- The control characters with a letter of their own. -/
def controlEscape? : Char → Option Char
  | 'a' => some '\x07'
  | 'f' => some '\x0c'
  | 't' => some '\t'
  | 'n' => some '\n'
  | 'r' => some '\r'
  | 'v' => some '\x0b'
  | _ => none

/-- The conditions with a letter of their own, other than the word boundary. -/
def lookEscape? : Char → Option Look
  | 'A' => some .startOfText
  | 'z' => some .endOfText
  | 'B' => some .notWordBoundary
  | '<' => some .wordStart
  | '>' => some .wordEnd
  | _ => none

/-- Reads an escape from its backslash on. -/
def escape : Parse (Span × Primitive) := do
  let start ← place
  if !(← advance) then fail .escapeUnexpectedEnd ((← get).spanFrom start)
  match ← peek? with
  | none => fail .escapeUnexpectedEnd ((← get).spanFrom start)
  | some c =>
    if c.isDigit then fail .unsupportedBackreference ⟨start, (← get).charSpan.stop⟩
    if c = 'x' || c = 'u' || c = 'U' then
      let literal ← hexLiteral
      return ((← get).spanFrom start, .literal literal)
    if c = 'p' || c = 'P' then
      let (negated, query) ← unicodeClass
      return ((← get).spanFrom start, .property negated query)
    let _ ← advance
    let span := (← get).spanFrom start
    if let some (negated, kind) := shorthand? c then return (span, .shorthand negated kind)
    if isMeta c || isEscapable c then return (span, .literal ⟨c, false⟩)
    if let some control := controlEscape? c then return (span, .literal ⟨control, false⟩)
    if let some look := lookEscape? c then return (span, .look look)
    if c = 'b' then
      if ← nextIs '\x7b' then
        match ← specialBoundary? start with
        | some look => return ((← get).spanFrom start, .look look)
        | none => return (span, .look .wordBoundary)
      else return (span, .look .wordBoundary)
    fail .escapeUnrecognized span

/-- The named ASCII classes. -/
def asciiClass? : String → Option AsciiClass
  | "alnum" => some .alnum
  | "alpha" => some .alpha
  | "ascii" => some .ascii
  | "blank" => some .blank
  | "cntrl" => some .cntrl
  | "digit" => some .digit
  | "graph" => some .graph
  | "lower" => some .lower
  | "print" => some .print
  | "punct" => some .punct
  | "space" => some .space
  | "upper" => some .upper
  | "word" => some .word
  | "xdigit" => some .xdigit
  | _ => none

/-- Reads a named ASCII class from its bracket on, if there is one. -/
def namedClass? (s : Scanner) : Option (ClassSet × Scanner) := do
  let opened ← s.accept? "[:"
  let (negated, opened) := match opened.accept? "^" with
    | some t => (true, t)
    | none => (false, opened)
  let name := opened.rest.takeWhile (· != ':')
  let kind ← asciiClass? (String.ofList name)
  let named := name.foldl (fun s _ => s.advance) opened
  let closed ← named.accept? ":]"
  return (.ascii (closed.spanFrom s.place) negated kind, closed)

/-- Items of a class that are not separated by an operator, last one first. -/
structure Union where
  span : Span
  items : List ClassSet := []

/-- Adds an item. -/
def Union.push (u : Union) (item : ClassSet) : Union :=
  { span := ⟨if u.items.isEmpty then item.span.start else u.span.start, item.span.stop⟩
    items := item :: u.items }

/-- The items as one class set. -/
def Union.close (u : Union) : ClassSet :=
  match u.items with
  | [item] => item
  | items => .union u.span items.reverse

/-- What is open while a bracketed class is read. -/
inductive ClassFrame where
  /-- A bracket: the items before it, its span up to the first item, and its negation. -/
  | bracket (before : Union) (span : Span) (negated : Bool)
  /-- The left operand of an operator. -/
  | operand (operator : SetOperator) (left : ClassSet)

/-- Applies the operator that is open last, if it belongs to the current bracket. -/
def closeOperand (right : ClassSet) : List ClassFrame → ClassSet × List ClassFrame
  | .operand operator left :: frames =>
    (.binary ⟨left.span.start, right.span.stop⟩ operator left right, frames)
  | frames => (right, frames)

/-- The span of the innermost open bracket. -/
def openBracket : List ClassFrame → Option Span
  | [] => none
  | .bracket _ span _ :: _ => some span
  | .operand .. :: frames => openBracket frames

/-- Fails for an unclosed class. -/
def failUnclosed {α : Type} (frames : List ClassFrame) : Parse α := do
  fail .classUnclosed ((openBracket frames).getD (.at (← place)))

/-- Reads the dashes that may follow an opening bracket. -/
def leadingDashes (start : Position) : (fuel : Nat) → Union → Parse Union
  | 0, u => return u
  | fuel + 1, u => do
    if ← nextIs '-' then
      let u := u.push (.literal (← get).charSpan ⟨'-', false⟩)
      if !(← advanceSkip) then fail .classUnclosed (.at start)
      leadingDashes start fuel u
    else return u

/-- Reads an opening bracket with what has a meaning of its own after it. -/
def openClass (before : Union) : Parse (ClassFrame × Union) := do
  let start ← place
  if !(← advanceSkip) then fail .classUnclosed ((← get).spanFrom start)
  let negated ← nextIs '^'
  if negated then
    if !(← advanceSkip) then fail .classUnclosed ((← get).spanFrom start)
  let u ← leadingDashes start ((← get).rest.length + 1) { span := .at (← place) }
  -- A closing bracket right at the start stands for itself.
  if u.items.isEmpty && (← nextIs ']') then
    let u := u.push (.literal (← get).charSpan ⟨']', false⟩)
    if !(← advanceSkip) then fail .classUnclosed ((← get).spanFrom start)
    return (.bracket before ((← get).spanFrom start) negated, u)
  else return (.bracket before ((← get).spanFrom start) negated, u)

/-- Reads an item of a class or an end of a range. -/
def classItem : Parse (Span × Primitive) := do
  if ← nextIs '\\' then escape
  else
    let span := (← get).charSpan
    match ← peek? with
    | some c =>
      let _ ← advance
      return (span, .literal ⟨c, false⟩)
    | none => fail .classUnclosed span

/-- A primitive as an item of a class. -/
def asItem (span : Span) : Primitive → Parse ClassSet
  | .literal value => return .literal span value
  | .property negated query => return .property span negated query
  | .shorthand negated kind => return .shorthand span negated kind
  | .look _ => fail .classEscapeInvalid span

/-- A primitive as an end of a range. -/
def asBound (span : Span) : Primitive → Parse Literal
  | .literal value => return value
  | _ => fail .classRangeLiteral span

/-- Reads an item or a range of a class. -/
def classRange (frames : List ClassFrame) : Parse ClassSet := do
  let (lowSpan, low) ← classItem
  modify Scanner.skipBlanks
  if ← atEnd then failUnclosed frames
  let following := (← get).peekSkip
  if !(← nextIs '-') || following == some ']' || following == some '-' then asItem lowSpan low
  else
    if !(← advanceSkip) then failUnclosed frames
    let (highSpan, high) ← classItem
    let low ← asBound lowSpan low
    let high ← asBound highSpan high
    let span : Span := ⟨lowSpan.start, highSpan.stop⟩
    if low.char ≤ high.char then return .range span low lowSpan high highSpan
    else fail .classRangeInvalid span

/-- The operator that comes next in a class. -/
def operator? (s : Scanner) : Option (SetOperator × Scanner) :=
  ((s.accept? "&&").map (.intersection, ·))
    <|> ((s.accept? "--").map (.difference, ·))
    <|> ((s.accept? "~~").map (.symmetricDifference, ·))

/-- Reads the rest of a class. -/
def classBody : (fuel : Nat) → List ClassFrame → Union → Parse Ast
  | 0, frames, _ => failUnclosed frames
  | fuel + 1, frames, u => do
    modify Scanner.skipBlanks
    let s ← get
    match s.rest with
    | [] => failUnclosed frames
    | '[' :: _ =>
      match namedClass? s with
      | some (item, t) =>
        set t
        classBody fuel frames (u.push item)
      | none =>
        let (frame, inner) ← openClass u
        classBody fuel (frame :: frames) inner
    | ']' :: _ =>
      let (content, frames) := closeOperand u.close frames
      let _ ← advance
      match frames with
      | .bracket before opened negated :: frames =>
        let span := (← get).spanFrom opened.start
        if frames.isEmpty then return .bracketed span negated content
        else classBody fuel frames (before.push (.bracketed span negated content))
      | _ => failUnclosed frames
    | _ =>
      match operator? s with
      | some (operator, t) =>
        set t
        let (left, frames) := closeOperand u.close frames
        classBody fuel (.operand operator left :: frames) { span := .at t.place }
      | none => classBody fuel frames (u.push (← classRange frames))

/-- Reads a bracketed class from its bracket on. -/
def bracketedClass : Parse Ast := do
  let fuel := 2 * (← get).rest.length + 2
  let (frame, u) ← openClass { span := .at (← place) }
  classBody fuel [frame] u

/-- Reads decimal digits, past blanks. -/
def decimalDigits : (fuel : Nat) → Parse (List Char)
  | 0 => return []
  | fuel + 1 => do
    match ← peek? with
    | some c =>
      if c.isDigit then
        let _ ← advanceSkip
        return c :: (← decimalDigits fuel)
      else return []
    | none => return []

/-- Moves past blanks, whether or not the flag `x` is set. -/
def skipAnyBlanks : (fuel : Nat) → Parse Unit
  | 0 => return ()
  | fuel + 1 => do
    match ← peek? with
    | some c =>
      if Text.isBlank c then
        let _ ← advanceSkip
        skipAnyBlanks fuel
    | none => return ()

/-- The greatest count of a repetition. -/
def maxCount : Nat := 0xFFFFFFFF

/-- Reads a decimal number; the error is kept for the caller to raise. -/
def decimal : Parse (Except Fault Nat) := do
  let fuel := (← get).rest.length + 1
  skipAnyBlanks fuel
  let start ← place
  let digits ← decimalDigits fuel
  let span := (← get).spanFrom start
  skipAnyBlanks fuel
  if digits.isEmpty then return .error ⟨.repetitionCountDecimalEmpty, span⟩
  let n := digits.foldl (fun n c => n * 10 + (c.toNat - 48)) 0
  if maxCount < n then return .error ⟨.decimalInvalid, span⟩
  return .ok n

/-- Parts of a sequence, last one first, and where it starts. -/
structure Sequence where
  start : Position
  parts : List Ast := []

/-- A sequence that ends at a place. -/
def Sequence.close (q : Sequence) (stop : Position) : Ast :=
  match q.parts with
  | [] => .empty ⟨q.start, stop⟩
  | [part] => part
  | parts => .concat ⟨q.start, stop⟩ parts.reverse

/-- The part that a repetition operator applies to, and the sequence before it. -/
def repeated (q : Sequence) : Parse (Ast × Sequence) := do
  match q.parts with
  | [] | .empty _ :: _ | .flags .. :: _ => fail .repetitionMissing (.at (← place))
  | part :: parts => return (part, { q with parts })

/-- Whether a repetition is greedy; moves past the question mark that makes it lazy. -/
def greed : Parse Bool := do
  let lazy ← nextIs '?'
  if lazy then modify Scanner.advance
  return !lazy

/-- Reads a one-character repetition operator. -/
def shortRepetition (q : Sequence) (least : Nat) (most : Option Nat) : Parse Sequence := do
  let (part, q) ← repeated q
  let _ ← advance
  let greedy ← greed
  let span := ⟨part.span.start, ← place⟩
  return { q with parts := .repetition span least most greedy part :: q.parts }

/-- Reads a counted repetition from its brace on. -/
def countedRepetition (q : Sequence) : Parse Sequence := do
  let start ← place
  let (part, q) ← repeated q
  let unclosed {α : Type} : Parse α := do fail .repetitionCountUnclosed ((← get).spanFrom start)
  if !(← advanceSkip) then unclosed
  -- A missing closing brace is told before a bad number.
  let first ← decimal
  if ← atEnd then unclosed
  let (least, most) ←
    if ← nextIs ',' then
      if !(← advanceSkip) then unclosed
      if ← nextIs '\x7d' then pure ((← MonadExcept.ofExcept first), none)
      else
        let least ← MonadExcept.ofExcept first
        let most ← MonadExcept.ofExcept (← decimal)
        pure (least, some most)
    else
      let count ← MonadExcept.ofExcept first
      pure (count, some count)
  if !(← nextIs '\x7d') then unclosed
  let greedy ← if ← advanceSkip then greed else pure true
  if (most.map (decide <| least ≤ ·)).getD true then
    let span := ⟨part.span.start, ← place⟩
    return { q with parts := .repetition span least most greedy part :: q.parts }
  else fail .repetitionCountInvalid ((← get).spanFrom start)

/-- The flag with a given letter. -/
def flag? : Char → Option Flag
  | 'i' => some .caseInsensitive
  | 'm' => some .multiLine
  | 's' => some .dotMatchesNewline
  | 'U' => some .swapGreed
  | 'u' => some .unicode
  | 'R' => some .carriageReturn
  | 'x' => some .ignoreBlanks
  | _ => none

/-- Reads flags up to a colon or a closing parenthesis. `found` holds the items so far, last one
first, and `dangling` the span of a minus sign that was read last. -/
def flagItems : (fuel : Nat) → (found : FlagItems) → (dangling : Option Span) → Parse FlagItems
  | 0, found, _ => return found.reverse
  | fuel + 1, found, dangling => do
    let span := (← get).charSpan
    match ← peek? with
    | none => fail .flagUnexpectedEnd (.at (← place))
    | some c =>
      if c = ':' || c = ')' then
        match dangling with
        | some span => fail .flagDanglingNegation span
        | none => return found.reverse
      let item : Option Flag ←
        if c = '-' then pure none
        else match flag? c with
          | some flag => pure (some flag)
          | none => fail .flagUnrecognized span
      match found.find? (·.1 = item), item with
      | some (_, earlier), none => fail (.flagRepeatedNegation earlier) span
      | some (_, earlier), some _ => fail (.flagDuplicate earlier) span
      | none, _ =>
        if !(← advance) then fail .flagUnexpectedEnd (.at (← place))
        flagItems fuel ((item, span) :: found) (if item.isNone then some span else none)

/-- Whether a character may stand in a group name. -/
def isNameChar (first : Bool) (c : Char) : Bool :=
  c == '_' || Unicode.alphabetic.contains c ||
    (!first && (c == '.' || c == '[' || c == ']' || (Unicode.categoryOf c).startsWith "N"))

/-- Reads the characters of a group name up to its closing angle bracket. -/
def nameChars : (fuel : Nat) → (first : Bool) → Parse (List Char)
  | 0, _ => return []
  | fuel + 1, first => do
    match ← peek? with
    | none => fail .groupNameUnexpectedEnd (.at (← place))
    | some '>' => return []
    | some c =>
      if !isNameChar first c then fail .groupNameInvalid (← get).charSpan
      let _ ← advance
      return c :: (← nameChars fuel false)

/-- Reads a group name and declares it. -/
def groupName : Parse Unit := do
  let start ← place
  let name ← nameChars ((← get).rest.length + 1) true
  let span := (← get).spanFrom start
  let _ ← advance
  if name.isEmpty then fail .groupNameEmpty (.at start)
  let name := String.ofList name
  match (← get).names.lookup name with
  | some earlier => fail (.groupNameDuplicate earlier) span
  | none => modify fun s => { s with names := (name, span) :: s.names }

/-- What an opening parenthesis starts: flags for the rest of the enclosing group, or a group. -/
inductive Opening where
  | flags (span : Span) (items : FlagItems)
  | group (span : Span) (items : FlagItems) (capture : Option Nat)

/-- The number of the next capture. -/
def nextCapture : Parse Nat := do
  modify fun s => { s with captures := s.captures + 1 }
  return (← get).captures

/-- Reads an opening parenthesis with what belongs to it. -/
def opening : Parse Opening := do
  let parenthesis := (← get).charSpan
  let _ ← advanceSkip
  if ← acceptOneOf ["?=", "?!", "?<=", "?<!"] then
    fail .unsupportedLookAround ((← get).spanFrom parenthesis.start)
  let inner ← place
  if ← acceptOneOf ["?P<", "?<"] then
    let index ← nextCapture
    groupName
    return .group parenthesis [] (some index)
  else if ← accept "?" then
    if ← atEnd then fail .groupUnclosed parenthesis
    let items ← flagItems ((← get).rest.length + 1) [] none
    let closed ← nextIs ')'
    let _ ← advance
    if closed then
      if items.isEmpty then fail .repetitionMissing (.at inner)
      return .flags ((← get).spanFrom parenthesis.start) items
    else return .group parenthesis items none
  else return .group parenthesis [] (some (← nextCapture))

/-- The alternatives of a group that are read so far: finished ones, last one first, the place
where the first one starts, and the current one. -/
structure Branches where
  finished : List Ast := []
  start : Position
  current : Sequence

/-- The branches of a group that starts at a place. -/
def Branches.startAt (p : Position) : Branches := { start := p, current := { start := p } }

/-- Adds a part to the current branch. -/
def Branches.push (b : Branches) (part : Ast) : Branches :=
  { b with current := { b.current with parts := part :: b.current.parts } }

/-- The branches as one pattern that ends at a place. -/
def Branches.close (b : Branches) (stop : Position) : Ast :=
  match b.finished with
  | [] => b.current.close stop
  | finished => .alternation ⟨b.start, stop⟩ (finished.reverse ++ [b.current.close stop])

/-- An open group: the branches around it, its span, flags and number, and whether blanks were
skipped before it. -/
structure GroupFrame where
  around : Branches
  span : Span
  items : FlagItems
  capture : Option Nat
  extended : Bool

/-- Reads a part that is no group, class or repetition. -/
def primitive : Parse Ast := do
  let span := (← get).charSpan
  match ← peek? with
  | some '\\' =>
    let (span, primitive) ← escape
    match primitive with
    | .literal value => return .literal span value
    | .look kind => return .look span kind
    | .property negated query => return .property span negated query
    | .shorthand negated kind => return .shorthand span negated kind
  | some '.' => let _ ← advance; return .dot span
  | some '^' => let _ ← advance; return .look span .startOfLine
  | some '$' => let _ ← advance; return .look span .endOfLine
  | some c => let _ ← advance; return .literal span ⟨c, false⟩
  | none => return .empty span

/-- Reads the rest of a pattern. -/
def patternBody : (fuel : Nat) → List GroupFrame → Branches → Parse Ast
  | 0, _, b => return b.close (← place)
  | fuel + 1, frames, b => do
    modify Scanner.skipBlanks
    match ← peek? with
    | none =>
      match frames with
      | [] => return b.close (← place)
      | frame :: _ => fail .groupUnclosed frame.span
    | some '(' =>
      match ← opening with
      | .flags span items =>
        if let some value := items.value? .ignoreBlanks then
          modify fun s => { s with extended := value }
        patternBody fuel frames (b.push (.flags span items))
      | .group span items capture =>
        let extended := (← get).extended
        modify fun s => { s with extended := (items.value? .ignoreBlanks).getD extended }
        patternBody fuel (⟨b, span, items, capture, extended⟩ :: frames) (.startAt (← place))
    | some ')' =>
      match frames with
      | [] => fail .groupUnopened (← get).charSpan
      | frame :: frames =>
        let body := b.close (← place)
        -- Flags end with the group that they were set in.
        modify fun s => { s with extended := frame.extended }
        let _ ← advance
        let span := (← get).spanFrom frame.span.start
        let group := .group span frame.items frame.capture body
        patternBody fuel frames (frame.around.push group)
    | some '|' =>
      let finished := b.current.close (← place) :: b.finished
      let _ ← advance
      patternBody fuel frames { b with finished, current := { start := ← place } }
    | some '[' => patternBody fuel frames (b.push (← bracketedClass))
    | some '?' =>
      patternBody fuel frames { b with current := ← shortRepetition b.current 0 (some 1) }
    | some '*' => patternBody fuel frames { b with current := ← shortRepetition b.current 0 none }
    | some '+' => patternBody fuel frames { b with current := ← shortRepetition b.current 1 none }
    | some '\x7b' => patternBody fuel frames { b with current := ← countedRepetition b.current }
    | some _ => patternBody fuel frames (b.push (← primitive))

/-- How deep the parts of a pattern may nest. -/
def nestLimit : Nat := 250

mutual

/-- Refuses a class that nests too deep, inside `depth` parts. -/
def checkClass (depth : Nat) : ClassSet → Except Fault Unit
  | .bracketed span _ content => do
    if nestLimit ≤ depth then throw ⟨.nestedTooDeep nestLimit, span⟩
    checkClass (depth + 1) content
  | .union span items => do
    if !items.isEmpty && nestLimit ≤ depth then throw ⟨.nestedTooDeep nestLimit, span⟩
    checkClasses (depth + 1) items
  | .binary span _ left right => do
    if nestLimit ≤ depth then throw ⟨.nestedTooDeep nestLimit, span⟩
    checkClass (depth + 1) left
    checkClass (depth + 1) right
  | _ => return ()

/-- Refuses a list of classes of which one nests too deep. -/
def checkClasses (depth : Nat) : List ClassSet → Except Fault Unit
  | [] => return ()
  | item :: items => do
    checkClass depth item
    checkClasses depth items

end

mutual

/-- Refuses a pattern that nests too deep, inside `depth` parts. -/
def checkNesting (depth : Nat) : Ast → Except Fault Unit
  | .bracketed span _ content => do
    if nestLimit ≤ depth then throw ⟨.nestedTooDeep nestLimit, span⟩
    checkClass (depth + 1) content
  | .repetition span _ _ _ body | .group span _ _ body => do
    if nestLimit ≤ depth then throw ⟨.nestedTooDeep nestLimit, span⟩
    checkNesting (depth + 1) body
  | .alternation span parts | .concat span parts => do
    if nestLimit ≤ depth then throw ⟨.nestedTooDeep nestLimit, span⟩
    checkAllNesting (depth + 1) parts
  | _ => return ()

/-- Refuses a list of patterns of which one nests too deep. -/
def checkAllNesting (depth : Nat) : List Ast → Except Fault Unit
  | [] => return ()
  | part :: parts => do
    checkNesting depth part
    checkAllNesting depth parts

end

/-- The syntax tree of a pattern. -/
def parse (pattern : String) : Except Fault Ast := do
  let chars := pattern.toList
  let (ast, _) ← (patternBody (chars.length + 1) [] (.startAt ⟨1, 1⟩)).run { rest := chars }
  checkNesting 0 ast
  return ast

end ResponseCheck.Pattern
