import ResponseCheck.Calendar.Basic
import ResponseCheck.Toml.Basic

/-!
# TOML scalars

Values of TOML without parts: strings in four notations, dates and times of day, numbers and truth
values. The first character of a value says which of these it is.
-/

namespace ResponseCheck.Toml

/-! ### Strings -/

/-- The value of a hexadecimal digit. -/
def hexDigit? (c : Char) : Option Nat :=
  if c.isDigit then some (c.toNat - '0'.toNat)
  else if 'a' ≤ c && c ≤ 'f' then some (c.toNat - 'a'.toNat + 10)
  else if 'A' ≤ c && c ≤ 'F' then some (c.toNat - 'A'.toNat + 10)
  else none

/-- Reads a character that is written as a number of hexadecimal digits. -/
def codePoint (length : Nat) : Step Char := .within (.codePoint length) fun s =>
  let digits := s.take length
  match digits.foldlM (fun n c => do return n * 16 + (← hexDigit? c)) 0 with
  | none => fail [] s
  | some n =>
    if digits.length ≠ length then fail [] s
    else if n.isValidChar then .ok (Char.ofNat n, s.drop length)
    else refuse .outOfRange s

/-- What may follow a backslash. -/
def escapeNames : List String := ["`b`", "`f`", "`n`", "`r`", "`t`", "`u`", "`U`", "`\\`", "`\"`"]

/-- Reads an escape after its backslash. -/
def escape : Step Char
  | 'b' :: s => .ok ('\x08', s)
  | 't' :: s => .ok ('\t', s)
  | 'n' :: s => .ok ('\n', s)
  | 'f' :: s => .ok ('\x0c', s)
  | 'r' :: s => .ok ('\r', s)
  | '"' :: s => .ok ('"', s)
  | '\\' :: s => .ok ('\\', s)
  | 'u' :: s => codePoint 4 s
  | 'U' :: s => codePoint 8 s
  | _ :: s => (fail escapeNames s).mapError (·.within .escape)
  | [] => fail [] []

/-- Reads the rest of a string in double quotes. The fuel bounds its length. -/
def basicString : (fuel : Nat) → Step (List Char)
  | 0, s => fail [] s
  | fuel + 1, s => do
    match s with
    | '"' :: rest => return ([], rest)
    | '\\' :: rest =>
      let (c, rest) ← escape rest
      let (cs, rest) ← basicString fuel rest
      return (c :: cs, rest)
    | c :: rest =>
      if isPrintable c then
        let (cs, rest) ← basicString fuel rest
        return (c :: cs, rest)
      else fail [] s
    | [] => fail [] s

/-- Reads the rest of a string in single quotes. -/
def literalString : Step (List Char) := fun s =>
  let text := s.takeWhile fun c => isPrintable c && c != '\''
  match s.drop text.length with
  | '\'' :: rest => .ok (text, rest)
  | rest => fail [] rest

/-- Moves over blanks and line ends. -/
def skipBlankLines : List Char → List Char
  | '\r' :: '\n' :: s => skipBlankLines s
  | c :: s => if isBlank c || c == '\n' then skipBlankLines s else c :: s
  | [] => []

/-- Moves over the line ends after a backslash that ends a line. -/
def continuation? (s : List Char) : Option (List Char) :=
  (newline? (skipBlanks s)).map skipBlankLines

/-- Reads the quotes at the end of a long string: three of them end it, and up to two more belong to
its text. -/
def closing? (quote : Char) (s : List Char) : Option (List Char × List Char) :=
  let quotes := (s.takeWhile (· == quote)).length
  if quotes < 3 then none
  else
    let extra := min (quotes - 3) 2
    some (List.replicate extra quote, s.drop (extra + 3))

/-- Reads the rest of a string in triple quotes; escapes count if `escapes`. The fuel bounds its
length. -/
def longString (quote : Char) (escapes : Bool) : (fuel : Nat) → Step (List Char)
  | 0, s => fail [] s
  | fuel + 1, s => do
    match closing? quote s with
    | some (text, rest) => return (text, rest)
    | none =>
      match newline? s with
      | some rest =>
        let (cs, rest) ← longString quote escapes fuel rest
        return ('\n' :: cs, rest)
      | none =>
        match s with
        | [] => fail [] s
        | c :: rest =>
          if escapes && c == '\\' then
            match continuation? rest with
            | some rest => longString quote escapes fuel rest
            | none =>
              let (d, rest) ← escape rest
              let (cs, rest) ← longString quote escapes fuel rest
              return (d :: cs, rest)
          else if isPrintable c then
            let (cs, rest) ← longString quote escapes fuel rest
            return (c :: cs, rest)
          else fail [] s

/-- A text without a line end at its start. -/
def dropNewline (s : List Char) : List Char := (newline? s).getD s

/-- Reads a string on one line at its opening quote. -/
def shortString : Step (List Char)
  | '"' :: s => Step.within .basicString (basicString (s.length + 1)) s
  | '\'' :: s => Step.within .literalString literalString s
  | s => fail [] s

/-- Reads a string at its opening quote. -/
def string : Step (List Char)
  | '"' :: '"' :: '"' :: s =>
    Step.within .longBasicString (longString '"' true (s.length + 1)) (dropNewline s)
  | '\'' :: '\'' :: '\'' :: s =>
    Step.within .longLiteralString (longString '\'' false (s.length + 1)) (dropNewline s)
  | s => shortString s

/-! ### Dates and times -/

/-- Reads a number of `count` digits. -/
def digits? (count : Nat) (s : List Char) : Option (Nat × List Char) :=
  let digits := s.take count
  if digits.length = count ∧ digits.all Char.isDigit then
    some (digits.foldl (fun n c => n * 10 + (c.toNat - '0'.toNat)) 0, s.drop count)
  else none

/-- Reads a number of two digits in a range. -/
def twoDigits (least greatest : Nat) : Step Nat := fun s =>
  match digits? 2 s with
  | none => fail [] s
  | some (n, rest) => if least ≤ n ∧ n ≤ greatest then .ok (n, rest) else refuse .outOfRange s

/-- What becomes of a text that starts like a moment. -/
inductive Attempt where
  /-- It is something else. -/
  | other
  /-- It is a moment with a fault in it. -/
  | fault (error : SyntaxError)
  /-- It is a moment, with its text in the usual form. -/
  | moment (text rest : List Char)
deriving Repr

/-- Reads a fraction of a second, if there is one: what counts are nine digits without the zeros at
their end. -/
def fraction (s : List Char) : List Char × List Char :=
  match s with
  | '.' :: rest =>
    let digits := rest.takeWhile Char.isDigit
    let kept := ((digits.take 9).reverse.dropWhile (· == '0')).reverse
    if digits.isEmpty then ([], s)
    else (if kept.isEmpty then [] else '.' :: kept, rest.drop digits.length)
  | s => ([], s)

/-- Reads a time of day. After an hour and a colon there must be all of it. -/
def time (s : List Char) : Attempt :=
  match digits? 2 s with
  | some (hour, ':' :: afterHour) =>
    if 23 < hour then .other
    else
      let rest := do
        let (_, s) ← twoDigits 0 59 afterHour
        let ((), s) ← expect ':' [] s
        let (_, s) ← twoDigits 0 60 s
        return s
      match rest with
      | .error error => .fault error
      | .ok rest =>
        let (digits, afterFraction) := fraction rest
        .moment (before s rest ++ digits) afterFraction
  | _ => .other

/-- Reads an offset from universal time, if there is one. After a sign there must be all of it. -/
def offset (s : List Char) : Attempt :=
  match s with
  | c :: rest =>
    if c == 'Z' || c == 'z' then .moment ['Z'] rest
    else if c == '+' || c == '-' then
      let numbers := do
        let (hour, s) ← twoDigits 0 23 rest
        let ((), s) ← expect ':' [] s
        let (minute, s) ← twoDigits 0 59 s
        return (hour + minute, s)
      match numbers with
      | .error error => .fault error
      | .ok (0, s) => .moment ['+', '0', '0', ':', '0', '0'] s
      | .ok (_, after) => .moment (before s after) after
    else .moment [] s
  | [] => .moment [] s

/-- Reads a time of day and an offset after a date, if they are there. -/
def timeAfterDate (s : List Char) : Attempt :=
  match s with
  | c :: rest =>
    if c == 'T' || c == 't' || c == ' ' then
      match time rest with
      | .other => .moment [] s
      | .fault error => .fault error
      | .moment text rest =>
        match offset rest with
        | .moment offset rest => .moment ('T' :: text ++ offset) rest
        | attempt => attempt
    else .moment [] s
  | [] => .moment [] s

/-- Reads a date, and what follows it. After a year and a dash there must be all of it. -/
def date (s : List Char) : Attempt :=
  match digits? 4 s with
  | some (year, '-' :: afterYear) =>
    let rest := do
      let (month, s) ← twoDigits 1 12 afterYear
      let ((), s) ← expect '-' [] s
      let (_, s) ← twoDigits 1 (Calendar.daysInMonth year month) s
      return s
    match rest with
    | .error error => .fault error
    | .ok rest =>
      match timeAfterDate rest with
      | .moment text after => .moment (before s rest ++ text) after
      | attempt => attempt
  | _ => .other

/-- Reads a date, a time of day, or both. -/
def moment (s : List Char) : Attempt :=
  match date s with
  | .other =>
    match time s with
    | .fault error => .fault (error.within .time)
    | attempt => attempt
  | .fault error => .fault (error.within .dateTime)
  | attempt => attempt

/-! ### Numbers -/

/-- Moves over digits with single underscores before them. -/
def moreDigits (isDigit : Char → Bool) : List Char → Except SyntaxError (List Char)
  | '_' :: c :: s => if isDigit c then moreDigits isDigit s else fail ["digit"] (c :: s)
  | ['_'] => fail ["digit"] []
  | c :: s => if isDigit c then moreDigits isDigit s else .ok (c :: s)
  | [] => .ok []

/-- Moves over digits with single underscores between them; there must be at least one digit. -/
def someDigits (isDigit : Char → Bool) (expected : List String) :
    List Char → Except SyntaxError (List Char)
  | c :: s => if isDigit c then moreDigits isDigit s else fail expected (c :: s)
  | [] => fail expected []

/-- Moves over a sign, if there is one. -/
def skipSign : List Char → List Char
  | '+' :: s => s
  | '-' :: s => s
  | s => s

/-- The number that digits in a base stand for; underscores do not count. -/
def digitsValue (base : Nat) (digits : List Char) : Nat :=
  digits.foldl (fun n c => if c == '_' then n else n * base + (hexDigit? c).getD 0) 0

/-- The decimal number that a sign and digits stand for. -/
def signedValue : List Char → Int
  | '-' :: digits => -(digitsValue 10 digits : Int)
  | digits => digitsValue 10 (skipSign digits)

/-- Moves over a decimal integer: zero, or digits that do not start with zero. -/
def skipWhole (s : List Char) : Except SyntaxError (List Char) :=
  let result : Except SyntaxError (List Char) := match skipSign s with
    | '0' :: rest => .ok rest
    | rest => someDigits Char.isDigit [] rest
  result.mapError (·.within .integer)

/-- Moves over a fraction, if there is one. -/
def skipFraction (s : List Char) : Except SyntaxError (List Char) :=
  match s with
  | '.' :: rest => (someDigits Char.isDigit ["digit"] rest).mapError (·.within .float)
  | s => .ok s

/-- Moves over an exponent, if there is one. -/
def skipExponent (s : List Char) : Except SyntaxError (List Char) :=
  match s with
  | c :: rest =>
    if c == 'e' || c == 'E' then
      (someDigits Char.isDigit [] (skipSign rest)).mapError (·.within .float)
    else .ok s
  | [] => .ok s

/-- An infinity or an undefined number at the start of a text. -/
def specialFloat? (s : List Char) : Option (Extended × List Char) :=
  match skipSign s with
  | 'i' :: 'n' :: 'f' :: rest => some (.infinity (s.head? == some '-'), rest)
  | 'n' :: 'a' :: 'n' :: rest => some (.undefined, rest)
  | _ => none

/-- The base that the letter after a zero tells, and its digits. -/
def baseOf? : Char → Option (Nat × (Char → Bool))
  | 'x' => some (16, fun c => (hexDigit? c).isSome)
  | 'o' => some (8, fun c => '0' ≤ c && c ≤ '7')
  | 'b' => some (2, fun c => c == '0' || c == '1')
  | _ => none

/-- An integer of 64 bits. -/
def integer (n : Int) (rest : List Char) : Step Scalar := fun s =>
  if n < -0x8000000000000000 then refuse .integerTooSmall s
  else if 0x8000000000000000 ≤ n then refuse .integerTooLarge s
  else .ok (.integer n, rest)

/-- Reads the digits of a number in a base. -/
def basedNumber (base : Nat) (isDigit : Char → Bool) : Step Scalar := fun s => do
  let digits := s.drop 2
  let rest ← (someDigits isDigit [] digits).mapError (·.within (.basedInteger base))
  integer (digitsValue base (before digits rest)) rest s

/-- A binary number with a fraction, an exponent, or both, by the rests of the text after its
parts. A number above all others is out of range, but one below all others is an infinity. -/
def float (afterWhole afterFraction afterExponent : List Char) : Step Scalar := fun s =>
  let whole := before (skipSign s) afterWhole
  let fraction := ((before afterWhole afterFraction).drop 1).filter (· != '_')
  let exponent := signedValue ((before afterFraction afterExponent).drop 1)
  let negative := s.head? == some '-'
  let digits := digitsValue 10 (whole ++ fraction)
  match Binary64.ofDecimal? negative digits (exponent - fraction.length) with
  | some x => .ok (.float (.finite x), afterExponent)
  | none =>
    if negative then .ok (.float (.infinity true), afterExponent)
    else (fail [] s).mapError (·.within .float)

/-- Reads a decimal number. -/
def decimalNumber : Step Scalar := fun s => do
  let afterWhole ← skipWhole s
  let afterFraction ← skipFraction afterWhole
  let afterExponent ← skipExponent afterFraction
  if afterExponent.length = afterWhole.length then
    integer (signedValue (before s afterWhole)) afterWhole s
  else float afterWhole afterFraction afterExponent s

/-- Reads a number or a moment. -/
def number : Step Scalar := fun s =>
  match moment s with
  | .moment text rest => .ok (.moment (String.ofList text), rest)
  | .fault error => .error error
  | .other =>
    match specialFloat? s with
    | some (x, rest) => .ok (.float x, rest)
    | none =>
      match s with
      | '0' :: letter :: _ =>
        match baseOf? letter with
        | some (base, isDigit) => basedNumber base isDigit s
        | none => decimalNumber s
      | s => decimalNumber s

/-- Fails where a value was expected. -/
def noValue {α : Type} (s : List Char) : Except SyntaxError α :=
  (fail ["`\"`", "`'`"] s).mapError (·.within .string)

/-- Reads a word that stands for a value. -/
def word (text : String) (value : Scalar) : Step Scalar := fun s =>
  if text.toList.isPrefixOf s then .ok (value, s.drop text.length) else noValue s

/-- Reads a scalar. -/
def scalar : Step Scalar := fun s =>
  match s with
  | [] => fail [] s
  | c :: _ =>
    if c == '"' || c == '\'' then do
      let (text, rest) ← string s
      return (.string (String.ofList text), rest)
    else if c == '+' || c == '-' || c.isDigit then number s
    else match c with
      | 't' => word "true" (.bool true) s
      | 'f' => word "false" (.bool false) s
      | 'i' => word "inf" (.float (.infinity false)) s
      | 'n' => word "nan" (.float .undefined) s
      | '_' => (fail ["leading digit"] s).mapError (·.within .integer)
      | '.' => (fail ["leading digit"] s).mapError (·.within .float)
      | _ => noValue s

end ResponseCheck.Toml
