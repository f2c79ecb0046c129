import ResponseCheck.Failure
import ResponseCheck.Matching.Type
import ResponseCheck.Matching.Value
import ResponseCheck.Resolution

/-! An expectation is an expected value at a path, or of the whole data where there is no path. -/

namespace ResponseCheck

/-- What it means for a value to be as expected. -/
inductive Predicate where
  /-- The value matches the expected one. -/
  | value
  /-- The value has the expected type. -/
  | type
deriving DecidableEq, Repr

/-- Checks one value. -/
def Predicate.check (predicate : Predicate) (expected actual : Json) : Verdict :=
  let outcome :=
    match predicate with
    | .value => Json.matchValue [] expected actual
    | .type => Json.matchType [] expected actual
  outcome.mapError .rejected

/-- An expected value at a path, or of the whole data. -/
structure Expectation where
  path : Option String := none
  optional : Bool := false
  expected : Json
deriving Repr

namespace Expectation

/-- The expectation as a failure shows it. -/
def toJson (e : Expectation) : Json :=
  .arr <|
    e.path.toList.map .str ++ [e.expected]
      ++ (if e.optional then [.obj [("optional", .bool true)]] else [])

/-- Whether data meets an expectation. -/
def verdict (e : Expectation) (predicate : Predicate) (policy : Policy) (data : Json) : Verdict :=
  match e.path with
  | none => predicate.check e.expected data
  | some raw => do (← Path.parse e.optional raw).resolve policy (predicate.check e.expected) data

/-- The failure that a mismatch makes of an expectation. -/
def failure (e : Expectation) (mismatch : Mismatch) : Failure :=
  ⟨.mismatch mismatch, .arguments e.toJson :: mismatch.element?.toList.map .element⟩

/-- Checks that data meets an expectation. -/
def check (e : Expectation) (predicate : Predicate) (policy : Policy) (data : Json) :
    Except Failure Unit :=
  (e.verdict predicate policy data).mapError e.failure

end Expectation

end ResponseCheck
