import ResponseCheck.Number.Extended
import ResponseCheck.Text.Blank

/-!
# The core schema of YAML

A plain scalar stands for null, a truth value, a number or its own text. Integers are decimal
without leading zeros, or hexadecimal, octal or binary after `0x`, `0o`, `0b`.
-/

namespace ResponseCheck.Yaml

/-- Whether a scalar stands for null by name. -/
def isNull (text : String) : Bool := ["null", "Null", "NULL", "~"].contains text

/-- The truth value that a scalar stands for. -/
def bool? (text : String) : Option Bool :=
  if ["true", "True", "TRUE"].contains text then some true
  else if ["false", "False", "FALSE"].contains text then some false
  else none

/-- The value of a digit in a base. -/
def digit? (base : Nat) (c : Char) : Option Nat := do
  let value ←
    if c.isDigit then some (c.toNat - '0'.toNat)
    else if 'a' ≤ c && c ≤ 'z' then some (c.toNat - 'a'.toNat + 10)
    else if 'A' ≤ c && c ≤ 'Z' then some (c.toNat - 'A'.toNat + 10)
    else none
  if value < base then some value else none

/-- The number that digits in a base stand for; there must be at least one. -/
def number? (base : Nat) (digits : List Char) : Option Nat :=
  if digits.isEmpty then none
  else digits.foldlM (fun n c => do return n * base + (← digit? base c)) 0

/-- Whether a character is a sign. -/
def isSign (c : Char) : Bool := c == '+' || c == '-'

/-- A text without one sign in front. -/
def unsigned : List Char → List Char
  | c :: rest => if isSign c then rest else c :: rest
  | [] => []

/-- Whether a text has digits only, with a zero in front that stands for nothing. -/
def hasLeadingZero (text : List Char) : Bool :=
  match unsigned text with
  | '0' :: rest => !rest.isEmpty && rest.all Char.isDigit
  | _ => false

/-- The number after a mark for its base. -/
def magnitude? : List Char → Option Nat
  | '0' :: 'x' :: digits => number? 16 digits
  | '0' :: 'o' :: digits => number? 8 digits
  | '0' :: 'b' :: digits => number? 2 digits
  | digits => number? 10 digits

/-- The integer that a scalar stands for. -/
def integer? (text : List Char) : Option Int :=
  if hasLeadingZero text then none
  else match text with
    | '-' :: digits => (magnitude? digits).map fun n => -(n : Int)
    | '+' :: digits => (magnitude? digits).map Int.ofNat
    | digits => (magnitude? digits).map Int.ofNat

/-- Reads an exponent after its letter. -/
def exponent? : List Char → Option Int
  | '-' :: digits => (number? 10 digits).map fun n => -(n : Int)
  | '+' :: digits => (number? 10 digits).map Int.ofNat
  | digits => (number? 10 digits).map Int.ofNat

/-- The number of decimal digits with an optional point and exponent; it must not overflow. -/
def decimal? (negative : Bool) (text : List Char) : Option Binary64 := do
  let whole := text.takeWhile Char.isDigit
  let rest := text.drop whole.length
  let (fraction, rest) :=
    match rest with
    | '.' :: rest => (rest.takeWhile Char.isDigit, rest.dropWhile Char.isDigit)
    | rest => ([], rest)
  let digits ← number? 10 (whole ++ fraction)
  let exponent ←
    match rest with
    | [] => some 0
    | c :: rest => if c == 'e' || c == 'E' then exponent? rest else none
  Binary64.ofDecimal? negative digits (exponent - fraction.length)

/-- The infinity or undefined number that a scalar stands for. -/
def special? (text : List Char) : Option Extended :=
  match String.ofList text with
  | ".inf" | ".Inf" | ".INF" | "+.inf" | "+.Inf" | "+.INF" => some (.infinity false)
  | "-.inf" | "-.Inf" | "-.INF" => some (.infinity true)
  | ".nan" | ".NaN" | ".NAN" => some .undefined
  | _ => none

/-- The binary number that a scalar stands for. -/
def real? (text : List Char) : Option Extended :=
  match special? text with
  | some x => some x
  | none =>
    (decimal? (text.head? == some '-') (unsigned text)).map .finite

end ResponseCheck.Yaml
