import ResponseCheck.Mismatch
import ResponseCheck.Pattern.Compile

/-! An expected object matches an object that has matching values under its keys, and an expected
array an array whose items match its own items one by one; both may have more. An object whose only
entry is `$regex` with a string is a pattern for strings. Numbers match when they are numerically
equal. -/

namespace ResponseCheck.Json

/-- The pattern that an expected value stands for. -/
def pattern? : Json → Option String
  | .obj [(name, .str pattern)] => if name == "$regex" then some pattern else none
  | _ => none

/-- Checks a value against a pattern; a pattern that cannot be used fails on every value. -/
def matchPattern (pattern : String) (location : Location) (actual : Json) :
    Except Rejection Unit :=
  -- The pattern is looked at before the value: a bad one fails on values of all types.
  match Pattern.compile pattern with
  | .error error => .error ⟨.invalidPattern pattern error, location, actual⟩
  | .ok expr =>
    match actual with
    | .str text =>
      if expr.search text then .ok () else .error ⟨.unmatched pattern, location, actual⟩
    | _ => .error ⟨.unmatched pattern, location, actual⟩

/-- Checks a value that is no container against an expected value, or containers of different
kinds. -/
def matchScalar : Json → Json → Bool
  | .null, .null => true
  | .bool a, .bool b => a == b
  | .num a, .num b => a.eqv b
  | .str a, .str b => a == b
  | _, _ => false

mutual

/-- Checks a value against an expected value at a location. -/
def matchValue (location : Location) (expected actual : Json) : Except Rejection Unit :=
  match expected.pattern? with
  | some pattern => matchPattern pattern location actual
  | none =>
    match expected, actual with
    | .obj expectedEntries, .obj entries => matchEntries location expectedEntries entries
    | .arr expectedItems, .arr items =>
      if items.length < expectedItems.length then
        .error ⟨.tooFew expectedItems.length items.length, location, actual⟩
      else matchItems location 0 expectedItems items
    | _, _ =>
      if matchScalar expected actual then .ok ()
      else .error ⟨.differs expected, location, actual⟩

/-- Checks the entries of an object against expected entries. -/
def matchEntries (location : Location) :
    List (String × Json) → List (String × Json) → Except Rejection Unit
  | [], _ => .ok ()
  | (name, expected) :: rest, entries =>
    match get? entries name with
    | none => .error ⟨.missingKey, location ++ [.key name], .obj entries⟩
    | some actual => do
      matchValue (location ++ [.key name]) expected actual
      matchEntries location rest entries

/-- Checks the items of an array from an index on against expected items. -/
def matchItems (location : Location) (index : Nat) :
    List Json → List Json → Except Rejection Unit
  | expected :: rest, actual :: items => do
    matchValue (location ++ [.index index]) expected actual
    matchItems location (index + 1) rest items
  | _, _ => .ok ()

end

end ResponseCheck.Json
