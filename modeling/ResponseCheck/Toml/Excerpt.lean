import ResponseCheck.Text.Blank
import ResponseCheck.Toml.Basic

/-! A message about a part of a text shows the line in which the part starts, with the part
underlined. -/

namespace ResponseCheck.Toml

/-- A line and a column, both counted from zero. -/
structure Place where
  line : Nat
  column : Nat
deriving DecidableEq, Repr

/-- The number of bytes of a text. -/
def byteCount (s : List Char) : Nat := s.foldl (fun n c => n + c.utf8Size) 0

/-- What follows the last line end. -/
def lastLine (s : List Char) : List Char := (s.reverse.takeWhile (· != '\n')).reverse

/-- The place where so many characters are left. Columns count characters, but before a character
outside ASCII they count bytes. The end of a text lies behind its last character, even if that is a
line end. -/
def Place.of (text : List Char) (left : Nat) : Place :=
  let head := text.take (text.length - left)
  let place (head : List Char) (column : List Char → Nat) : Place :=
    ⟨head.count '\n', column (lastLine head)⟩
  match text.drop (text.length - left) with
  | c :: _ => place head (if c.toNat < 128 then List.length else byteCount)
  | [] => if text.isEmpty then ⟨0, 0⟩ else place head.dropLast (·.length + 1)

/-- A message about a part of a text. -/
def excerpt (text : List Char) (span : Span) (message : String) : String :=
  let place := Place.of text span.start
  let number := toString (place.line + 1)
  let content := ((Text.splitOn '\n' text)[place.line]?).getD []
  let margin := "".pushn ' ' (number.length + 1) ++ "|"
  let marked := byteCount (before (text.drop (text.length - span.start))
    (text.drop (text.length - span.stop)))
  let carets := max 1 (min marked (byteCount content - place.column))
  s!"TOML parse error at line {number}, column {place.column + 1}\n"
    ++ margin ++ "\n"
    ++ number ++ " | " ++ String.ofList content ++ "\n"
    ++ (margin.pushn ' ' (place.column + 1)).pushn '^' carets ++ "\n"
    ++ message ++ "\n"

end ResponseCheck.Toml
