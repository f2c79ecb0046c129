/-!
# Syntax of patterns

The syntax tree of a pattern keeps the span of every part that an error may point at.
-/

namespace ResponseCheck.Pattern

/-- A place in a pattern; lines and columns count characters from one. -/
structure Position where
  line : Nat
  column : Nat
deriving DecidableEq, Repr

/-- The place after a character. -/
def Position.after (p : Position) (c : Char) : Position :=
  if c = '\n' then ⟨p.line + 1, 1⟩ else ⟨p.line, p.column + 1⟩

/-- Whether one place is not after another. -/
def Position.le (p q : Position) : Bool :=
  p.line < q.line || (p.line == q.line && p.column ≤ q.column)

/-- The characters between two places. -/
structure Span where
  start : Position
  stop : Position
deriving DecidableEq, Repr

/-- The span of no characters at a place. -/
def Span.at (p : Position) : Span := ⟨p, p⟩

/-- A single character. `byteEscape` marks one written as `\x` with two digits, which stands for a
byte where Unicode is turned off. -/
structure Literal where
  char : Char
  byteEscape : Bool := false
deriving DecidableEq, Repr

/-- The one-letter classes of digits, blanks and word characters. -/
inductive Shorthand where
  | digit
  | space
  | word
deriving DecidableEq, Repr

/-- The named classes of ASCII characters, as in `[:alpha:]`. -/
inductive AsciiClass where
  | alnum | alpha | ascii | blank | cntrl | digit | graph | lower | print | punct | space | upper
  | word | xdigit
deriving DecidableEq, Repr

/-- How a Unicode property is asked for. -/
inductive PropertyQuery where
  /-- A name, as in `\p{Greek}` or `\pL`. -/
  | named (name : String)
  /-- A name and a value, as in `\p{script=Greek}`; `differs` for `!=`. -/
  | valued (name value : String) (differs : Bool)
deriving DecidableEq, Repr

/-- The binary operators in a bracketed class. -/
inductive SetOperator where
  | intersection
  | difference
  | symmetricDifference
deriving DecidableEq, Repr

/-- The content of a bracketed class. -/
inductive ClassSet where
  | literal (span : Span) (value : Literal)
  | range (span : Span) (low : Literal) (lowSpan : Span) (high : Literal) (highSpan : Span)
  | ascii (span : Span) (negated : Bool) (kind : AsciiClass)
  | property (span : Span) (negated : Bool) (query : PropertyQuery)
  | shorthand (span : Span) (negated : Bool) (kind : Shorthand)
  | bracketed (span : Span) (negated : Bool) (content : ClassSet)
  | union (span : Span) (items : List ClassSet)
  | binary (span : Span) (operator : SetOperator) (left right : ClassSet)
deriving Repr

/-- The span of a class set. -/
def ClassSet.span : ClassSet → Span
  | .literal span _ | .range span .. | .ascii span .. | .property span .. | .shorthand span ..
  | .bracketed span .. | .union span _ | .binary span .. => span

/-- Conditions on a place between characters. -/
inductive Look where
  | startOfText | endOfText | startOfLine | endOfLine
  | wordBoundary | notWordBoundary | wordStart | wordEnd | wordStartHalf | wordEndHalf
deriving DecidableEq, Repr

/-- The flags that change how a pattern is read. -/
inductive Flag where
  | caseInsensitive | multiLine | dotMatchesNewline | swapGreed | unicode | carriageReturn
  | ignoreBlanks
deriving DecidableEq, Repr

/-- Flags set and cleared together; `none` is the minus sign between the two kinds. -/
abbrev FlagItems := List (Option Flag × Span)

/-- The value that flag items give to a flag, if they mention it. -/
def FlagItems.value? (flag : Flag) (items : FlagItems) : Option Bool :=
  (items.foldl
    (fun (negated, found) (item, _) =>
      match item with
      | none => (true, found)
      | some f => if f = flag then (negated, found <|> some !negated) else (negated, found))
    (false, none)).2

/-- Patterns. -/
inductive Ast where
  | empty (span : Span)
  | flags (span : Span) (items : FlagItems)
  | literal (span : Span) (value : Literal)
  | dot (span : Span)
  | look (span : Span) (kind : Look)
  | property (span : Span) (negated : Bool) (query : PropertyQuery)
  | shorthand (span : Span) (negated : Bool) (kind : Shorthand)
  | bracketed (span : Span) (negated : Bool) (content : ClassSet)
  | repetition (span : Span) (least : Nat) (most : Option Nat) (greedy : Bool) (body : Ast)
  /-- A group; one that captures has a number. -/
  | group (span : Span) (flags : FlagItems) (capture : Option Nat) (body : Ast)
  | alternation (span : Span) (branches : List Ast)
  | concat (span : Span) (parts : List Ast)
deriving Repr

/-- The span of a pattern. -/
def Ast.span : Ast → Span
  | .empty span | .flags span _ | .literal span _ | .dot span | .look span _ | .property span ..
  | .shorthand span .. | .bracketed span .. | .repetition span .. | .group span ..
  | .alternation span _ | .concat span _ => span

end ResponseCheck.Pattern
