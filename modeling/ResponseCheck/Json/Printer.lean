import ResponseCheck.Json.Basic
import ResponseCheck.Number.Shortest

/-!
# JSON text

Strings escape the quote, the backslash and the control characters below U+0020, the latter by a
short escape where one exists; everything else is written as it is. Binary numbers are shortest
decimals, positional when the leading digit stands for `10 ^ (-5)` to `10 ^ 15`.
-/

namespace ResponseCheck.Json

/-- The layout of binary numbers. -/
def numberLayout : Decimal.Layout := ⟨-5, 15⟩

/-- The small hexadecimal digit of a number below sixteen. -/
def hexDigit (n : Nat) : Char := Nat.digitChar (n % 16)

/-- A character inside a quoted string. -/
def escape (c : Char) : List Char :=
  if c = '"' then ['\\', '"']
  else if c = '\\' then ['\\', '\\']
  else if c = '\x08' then ['\\', 'b']
  else if c = '\x0c' then ['\\', 'f']
  else if c = '\n' then ['\\', 'n']
  else if c = '\r' then ['\\', 'r']
  else if c = '\t' then ['\\', 't']
  else if c.toNat < 0x20 then ['\\', 'u', '0', '0', hexDigit (c.toNat / 16), hexDigit c.toNat]
  else [c]

/-- A quoted string. -/
def quote (s : String) : List Char := ['"'] ++ s.toList.flatMap escape ++ ['"']

/-- The text of an integer. -/
def integerChars : Int → List Char
  | .ofNat n => Nat.toDigits 10 n
  | .negSucc n => '-' :: Nat.toDigits 10 (n + 1)

/-- The text of a number. -/
def Number.chars : Number → List Char
  | .int n => integerChars n
  | .float x => x.render numberLayout

/-- The text of a number. -/
def Number.text (n : Number) : String := String.ofList n.chars

mutual

/-- The characters of a value on one line. -/
def compactChars : Json → List Char
  | .null => ['n', 'u', 'l', 'l']
  | .bool true => ['t', 'r', 'u', 'e']
  | .bool false => ['f', 'a', 'l', 's', 'e']
  | .num n => n.chars
  | .str s => quote s
  | .arr [] => ['[', ']']
  | .arr (v :: rest) => '[' :: (compactChars v ++ compactItems rest)
  | .obj [] => ['\x7b', '\x7d']
  | .obj ((name, v) :: rest) =>
    '\x7b' :: (quote name ++ ':' :: (compactChars v ++ compactEntries rest))

/-- The items after the first one, and the closing bracket. -/
def compactItems : List Json → List Char
  | [] => [']']
  | v :: rest => ',' :: (compactChars v ++ compactItems rest)

/-- The entries after the first one, and the closing brace. -/
def compactEntries : List (String × Json) → List Char
  | [] => ['\x7d']
  | (name, v) :: rest => ',' :: (quote name ++ ':' :: (compactChars v ++ compactEntries rest))

end

/-- A value on one line without blanks. -/
def compact (v : Json) : String := String.ofList v.compactChars

instance : ToString Json := ⟨compact⟩

/-- A line break, and the indentation of a nesting depth. -/
def newline (depth : Nat) : List Char := '\n' :: List.replicate (2 * depth) ' '

mutual

/-- The characters of a value over several lines, inside `depth` containers. -/
def prettyChars (depth : Nat) : Json → List Char
  | .arr [] => ['[', ']']
  | .arr (v :: rest) =>
    '[' :: (newline (depth + 1) ++ prettyChars (depth + 1) v ++ prettyItems depth rest)
  | .obj [] => ['\x7b', '\x7d']
  | .obj ((name, v) :: rest) =>
    '\x7b' :: (newline (depth + 1) ++ quote name ++ [':', ' '] ++ prettyChars (depth + 1) v
      ++ prettyEntries depth rest)
  | .null => compactChars .null
  | .bool b => compactChars (.bool b)
  | .num n => n.chars
  | .str s => quote s

/-- The items after the first one, and the closing bracket on its own line. -/
def prettyItems (depth : Nat) : List Json → List Char
  | [] => newline depth ++ [']']
  | v :: rest => ',' :: (newline (depth + 1) ++ prettyChars (depth + 1) v ++ prettyItems depth rest)

/-- The entries after the first one, and the closing brace on its own line. -/
def prettyEntries (depth : Nat) : List (String × Json) → List Char
  | [] => newline depth ++ ['\x7d']
  | (name, v) :: rest =>
    ',' :: (newline (depth + 1) ++ quote name ++ [':', ' '] ++ prettyChars (depth + 1) v
      ++ prettyEntries depth rest)

end

/-- A value with one item or entry per line, indented by two spaces a level. -/
def pretty (v : Json) : String := String.ofList (prettyChars 0 v)

end ResponseCheck.Json
