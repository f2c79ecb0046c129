import ResponseCheck.Yaml.Error

/-! A cursor is what is left of a text, and the mark of the place before it. It moves over single
characters or whole line breaks; a carriage return with a line feed is one break. -/

namespace ResponseCheck.Yaml

/-- Line breaks: line feed, carriage return, next line, line and paragraph separators. -/
def isBreak (c : Char) : Bool :=
  c == '\n' || c == '\r' || c == '\u0085' || c == '\u2028' || c == '\u2029'

/-- Blanks: space and tab. -/
def isBlank (c : Char) : Bool := c == ' ' || c == '\t'

/-- Characters of names: letters, digits, dash and underscore. -/
def isWord (c : Char) : Bool := c.isAlphanum || c == '-' || c == '_'

/-- What is left of a text, and the place before it. -/
structure Cursor where
  rest : List Char
  mark : Mark := {}
deriving DecidableEq, Repr

namespace Cursor

/-- The character `n` places ahead. -/
def ahead? (c : Cursor) (n : Nat) : Option Char := c.rest[n]?

/-- Whether the character `n` places ahead satisfies `p`. -/
def aheadIs (c : Cursor) (n : Nat) (p : Char → Bool) : Bool := (c.ahead? n).any p

/-- Whether the next character is `x`. -/
def startsWith (c : Cursor) (x : Char) : Bool := c.ahead? 0 == some x

/-- Whether the text ends `n` places ahead. -/
def endsAt (c : Cursor) (n : Nat) : Bool := (c.ahead? n).isNone

/-- Whether there is no character `n` places ahead but a blank or a line break. -/
def gapAt (c : Cursor) (n : Nat) : Bool := (c.ahead? n).all fun x => isBlank x || isBreak x

/-- Whether the line ends here. -/
def atLineEnd (c : Cursor) : Bool := (c.ahead? 0).all isBreak

/-- Moves over `n` characters of a line. -/
def skip (c : Cursor) (n : Nat) : Cursor :=
  ⟨c.rest.drop n, { c.mark with index := c.mark.index + n, column := c.mark.column + n }⟩

/-- Moves over the characters of a line that satisfy `p`. -/
def skipWhile (c : Cursor) (p : Char → Bool) : Cursor := c.skip (c.rest.takeWhile p).length

/-- The characters of a line that satisfy `p`, and the place after them. -/
def takeWhile (c : Cursor) (p : Char → Bool) : List Char × Cursor :=
  (c.rest.takeWhile p, c.skipWhile p)

/-- The place at the start of the next line, after a break of `n` characters. -/
def nextLine (c : Cursor) (n : Nat) : Cursor :=
  ⟨c.rest.drop n, ⟨c.mark.index + n, c.mark.line + 1, 0⟩⟩

/-- Moves over a line break, if there is one here. Separators stand for themselves, all other
breaks for a line feed. -/
def lineBreak (c : Cursor) : List Char × Cursor :=
  match c.rest with
  | '\r' :: '\n' :: _ => (['\n'], c.nextLine 2)
  | x :: _ =>
    if x == '\u2028' || x == '\u2029' then ([x], c.nextLine 1)
    else if isBreak x then (['\n'], c.nextLine 1)
    else ([], c)
  | [] => ([], c)

/-- Moves over the rest of the line if it is a comment. -/
def skipComment (c : Cursor) : Cursor :=
  if c.startsWith '#' then c.skipWhile (!isBreak ·) else c

/-- Whether a line starts here with a document indicator. -/
def atDocumentIndicator (c : Cursor) : Bool :=
  c.mark.column == 0 && (c.rest.take 3 == ['-', '-', '-'] || c.rest.take 3 == ['.', '.', '.'])
    && c.gapAt 3

/-- The error of a problem here, while reading what began at `start`. -/
def fail {α : Type} (c : Cursor) (problem : Problem) (context : Context) (start : Mark) :
    Except SyntaxError α :=
  .error ⟨problem, c.mark, some (context, start)⟩

end Cursor

end ResponseCheck.Yaml
