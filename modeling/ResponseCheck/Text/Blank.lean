/-! Blank characters are those with the Unicode property `White_Space` where a text is trimmed, and
those of ASCII where it is cut into words. Lines end with LF or CRLF. -/

namespace ResponseCheck.Text

/-- The characters with the Unicode property White_Space. -/
def isBlank (c : Char) : Bool :=
  let n := c.toNat
  (9 ≤ n && n ≤ 13) || n == 0x20 || n == 0x85 || n == 0xA0 || n == 0x1680
    || (0x2000 ≤ n && n ≤ 0x200A) || n == 0x2028 || n == 0x2029 || n == 0x202F
    || n == 0x205F || n == 0x3000

/-- The ASCII blanks that separate words: space, tab, line feed, form feed, carriage return. -/
def isAsciiBlank (c : Char) : Bool :=
  c == ' ' || c == '\t' || c == '\n' || c == '\x0c' || c == '\r'

/-- Drops the longest end whose characters all satisfy `p`. -/
def dropEndWhile (p : Char → Bool) (cs : List Char) : List Char :=
  cs.foldr (fun c rest => if rest.isEmpty && p c then [] else c :: rest) []

/-- The characters of a text without the blanks around them. -/
def trimChars (cs : List Char) : List Char := dropEndWhile isBlank (cs.dropWhile isBlank)

/-- A text without the blanks around it. -/
def trim (text : String) : String := String.ofList (trimChars text.toList)

/-- The parts of a list between the elements equal to `sep`; a list without `sep` is one part. -/
def splitOn {α : Type _} [BEq α] (sep : α) : List α → List (List α)
  | [] => [[]]
  | c :: rest =>
    if c == sep then [] :: splitOn sep rest
    else match splitOn sep rest with
      | [] => [[c]]
      | part :: parts => (c :: part) :: parts

/-- Drops one carriage return at the end. -/
def dropReturn (line : List Char) : List Char :=
  if line.getLast? == some '\r' then line.dropLast else line

/-- The lines of a text without their line ends: each line but an unfinished last one ends with
LF or CRLF. -/
def lines (text : String) : List String :=
  let parts := splitOn '\n' text.toList
  let finished := parts.dropLast.map (String.ofList ∘ dropReturn)
  match parts.getLast? with
  | some (c :: rest) => finished ++ [String.ofList (c :: rest)]
  | _ => finished

/-- The words of a list of characters: its maximal runs without ASCII blanks. -/
def words (cs : List Char) : List (List Char) :=
  cs.foldr
    (fun c acc =>
      if isAsciiBlank c then
        match acc with
        | [] :: _ => acc
        | _ => [] :: acc
      else match acc with
        | [] => [[c]]
        | word :: rest => (c :: word) :: rest)
    [[]]
  |>.filter (!·.isEmpty)

/-- The part before the first `sep`, and the part after it. -/
def splitOnce (sep : Char) (cs : List Char) : Option (List Char × List Char) :=
  match cs.dropWhile (· != sep) with
  | [] => none
  | _ :: rest => some (cs.takeWhile (· != sep), rest)

/-- A text with its ASCII capitals made small. -/
def asciiLower (text : String) : String := text.map Char.toLower

/-- Whether `part` occurs in the list. -/
def occursIn (part : List Char) : List Char → Bool
  | [] => part.isEmpty
  | c :: rest => part.isPrefixOf (c :: rest) || occursIn part rest

end ResponseCheck.Text
