import ResponseCheck.Mismatch

/-! An expected type is a type specification, or an object of expected types under keys. A key may
be absent where its expected type is a specification that admits null. -/

namespace ResponseCheck.Json

/-- Whether a key with this expected type may be absent. -/
def admitsAbsence : Json → Bool
  | .str name => (TypeSpec.parse? name).any (·.nullable)
  | _ => false

mutual

/-- Checks a value against an expected type at a location. -/
def matchType (location : Location) (expected actual : Json) : Except Rejection Unit :=
  match expected with
  | .str name =>
    match TypeSpec.parse? name with
    | none => .error ⟨.unknownType name, location, actual⟩
    | some spec =>
      if spec.accepts actual then .ok () else .error ⟨.wrongType spec, location, actual⟩
  | .obj expectedEntries =>
    match actual with
    | .obj entries => matchTypes location expectedEntries entries
    | _ => .error ⟨.notObject, location, actual⟩
  | _ => .error ⟨.unsupportedType expected, location, actual⟩

/-- Checks the entries of an object against expected types. -/
def matchTypes (location : Location) :
    List (String × Json) → List (String × Json) → Except Rejection Unit
  | [], _ => .ok ()
  | (name, expected) :: rest, entries =>
    match get? entries name with
    | some actual => do
      matchType (location ++ [.key name]) expected actual
      matchTypes location rest entries
    | none =>
      -- An object of types is never admitted as absent, even if all its keys are.
      if expected.admitsAbsence then matchTypes location rest entries
      else .error ⟨.missingKey, location ++ [.key name], .obj entries⟩

end

end ResponseCheck.Json
