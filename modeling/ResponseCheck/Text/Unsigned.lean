/-! Unsigned decimal numbers have digits only, of any number, and perhaps a plus sign in front. -/

namespace ResponseCheck.Text

/-- The number that decimal digits stand for; there must be at least one. -/
def decimal? (digits : List Char) : Option Nat :=
  if digits.isEmpty || !digits.all Char.isDigit then none
  else some (digits.foldl (fun n c => n * 10 + (c.toNat - '0'.toNat)) 0)

/-- The number that decimal digits after an optional plus sign stand for. -/
def unsigned? : List Char → Option Nat
  | '+' :: digits => decimal? digits
  | digits => decimal? digits

end ResponseCheck.Text
