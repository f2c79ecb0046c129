import ResponseCheck.Calendar.Basic

/-!
# Timestamps

Two texts for a moment: the RFC 3339 form that is recognised in data, and the day-first form that is
written at the head of a diagnostic dump.
-/

namespace ResponseCheck.Calendar

/-- The value of a decimal digit. -/
def digit? (c : Char) : Option Nat := if c.isDigit then some (c.toNat - '0'.toNat) else none

/-- Reads two digits. -/
def twoDigits? : List Char → Option (Nat × List Char)
  | a :: b :: rest => do return ((← digit? a) * 10 + (← digit? b), rest)
  | _ => none

/-- Reads a given character. -/
def expect? (c : Char) : List Char → Option (List Char)
  | d :: rest => if d == c then some rest else none
  | [] => none

/-- Reads an optional fraction of a second: a point and at least one digit. -/
def fraction? : List Char → Option (List Char)
  | '.' :: d :: rest => if d.isDigit then some (rest.dropWhile Char.isDigit) else none
  | ['.'] => none
  | rest => some rest

/-- Reads an offset: `Z`, or a sign, hours and minutes below a day. -/
def offset? : List Char → Option (List Char)
  | 'Z' :: rest | 'z' :: rest => some rest
  | sign :: rest => do
    if sign != '+' && sign != '-' && sign != '\u2212' then none
    let (hours, rest) ← twoDigits? rest
    let rest ← expect? ':' rest
    let (minutes, rest) ← twoDigits? rest
    if hours < 24 ∧ minutes < 60 then some rest else none
  | [] => none

/-- Reads a date: four digits of the year, month and day. -/
def date? (s : List Char) : Option (Date × List Char) := do
  let (century, s) ← twoDigits? s
  let (years, s) ← twoDigits? s
  let (month, s) ← twoDigits? (← expect? '-' s)
  let (day, s) ← twoDigits? (← expect? '-' s)
  let year := century * 100 + years
  if 1 ≤ day ∧ day ≤ daysInMonth year month then some (⟨year, month, day⟩, s) else none

/-- Reads a time of day; any minute may have a leap second. -/
def time? (s : List Char) : Option (List Char) := do
  let (hour, s) ← twoDigits? s
  let (minute, s) ← twoDigits? (← expect? ':' s)
  let (second, s) ← twoDigits? (← expect? ':' s)
  if hour < 24 ∧ minute < 60 ∧ second ≤ 60 then fraction? s else none

/-- RFC 3339 timestamps: a date, `T` or a blank, a time of day and an offset. -/
def isTimestamp (text : String) : Bool :=
  let rest? := do
    let (_, s) ← date? text.toList
    match s with
    | separator :: s =>
      if separator == 'T' || separator == 't' || separator == ' ' then offset? (← time? s) else none
    | [] => none
  rest? == some []

/-- A number with at least `width` digits. -/
def padded (width n : Nat) : String :=
  let digits := Nat.toDigits 10 n
  String.ofList (List.replicate (width - digits.length) '0' ++ digits)

/-- A year with four digits, and a sign unless it lies between 0 and 9999. -/
def yearText (year : Int) : String :=
  if year < 0 then "-" ++ padded 4 year.natAbs
  else if year < 10000 then padded 4 year.natAbs
  else "+" ++ padded 4 year.natAbs

/-- The seconds of a day. -/
def secondsPerDay : Int := 86400

/-- The first second that has a timestamp, the start of year -262143. -/
def firstSecond : Int := -8334601228800

/-- The last second that has a timestamp, the end of year 262142. -/
def lastSecond : Int := 8210266876799

/-- The moment `seconds` after the start of 1970, day first and to the minute, as seen `offset`
seconds east of Greenwich. The offset is less than a day. -/
def stamp? (seconds offset : Int) : Option String :=
  if offset.natAbs < 86400 ∧ firstSecond ≤ seconds ∧ seconds ≤ lastSecond then
    let shifted := seconds + offset
    let date := ofDays (shifted / secondsPerDay)
    let minutes := (shifted % secondsPerDay).toNat / 60
    let day := s!"{padded 2 date.day}/{padded 2 date.month}/{yearText date.year}"
    some s!"{day} {padded 2 (minutes / 60)}:{padded 2 (minutes % 60)}"
  else none

end ResponseCheck.Calendar
