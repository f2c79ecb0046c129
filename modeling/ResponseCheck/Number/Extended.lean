import ResponseCheck.Number.Binary64

/-! Binary numbers with the two infinities and an undefined number, as YAML can write them. -/

namespace ResponseCheck

/-- A binary number, an infinity, or no number. -/
inductive Extended where
  | finite (value : Binary64)
  | infinity (negative : Bool)
  | undefined
deriving DecidableEq, Repr

/-- Equality of numbers: zeros are equal, and so are undefined ones. -/
def Extended.eqv : Extended → Extended → Bool
  | .finite x, .finite y => x.eqv y
  | x, y => x == y

end ResponseCheck
