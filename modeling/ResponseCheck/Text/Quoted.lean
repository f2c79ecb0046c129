import ResponseCheck.Unicode.Category
import ResponseCheck.Unicode.Property

/-! A text is shown between quotes, with escapes for what a reader could not tell apart or see:
quotes and backslashes, characters that are not printable, and marks that join with the character
before. -/

namespace ResponseCheck.Text

/-- The general categories of characters that cannot be seen. -/
def invisibleCategories : List String := ["Cc", "Cf", "Cs", "Co", "Cn", "Zl", "Zp", "Zs"]

/-- The characters that stand for themselves: visible ones that do not join with the character
before them, and the blank. -/
def isPrintable (c : Char) : Bool :=
  c == ' '
    || (!invisibleCategories.contains (Unicode.categoryOf c) && !Unicode.graphemeExtend.contains c)

/-- An escape by the number of a character in hexadecimal. -/
def numericEscape (c : Char) : List Char :=
  ['\\', 'u', '\x7b'] ++ Nat.toDigits 16 c.toNat ++ ['\x7d']

/-- A character between quotes. -/
def quotedChar (c : Char) : List Char :=
  if c = '\x00' then ['\\', '0']
  else if c = '\t' then ['\\', 't']
  else if c = '\r' then ['\\', 'r']
  else if c = '\n' then ['\\', 'n']
  else if c = '\\' then ['\\', '\\']
  else if c = '"' then ['\\', '"']
  else if isPrintable c then [c]
  else numericEscape c

/-- A text between quotes. -/
def quoted (text : String) : String :=
  String.ofList (['"'] ++ text.toList.flatMap quotedChar ++ ['"'])

end ResponseCheck.Text
