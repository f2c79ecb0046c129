import ResponseCheck.Json.Printer
import ResponseCheck.Pattern.Error
import ResponseCheck.TypeSpec

/-!
# Mismatches

A *rejection* is the verdict of a predicate on one value: what was wrong, where in the expectation,
and which value was met. A *mismatch* is why a path did not lead to values that satisfy a predicate;
mismatches below a wildcard nest.
-/

namespace ResponseCheck

/-- One step into a value. -/
inductive Step where
  | key (name : String)
  | index (i : Nat)
deriving DecidableEq, Repr

/-- A place in a value, as steps from its root. -/
abbrev Location := List Step

/-- The text of a step. -/
def Step.text : Step → String
  | .key name => "." ++ name
  | .index i => s!"[{i}]"

/-- The text of a location. -/
def Location.text (location : Location) : String := "$" ++ String.join (location.map Step.text)

/-- What a predicate has against a value. -/
inductive Complaint where
  /-- The expected pattern cannot be used. -/
  | invalidPattern (pattern : String) (error : Pattern.Error)
  /-- The value is no string that matches the pattern. -/
  | unmatched (pattern : String)
  /-- The object lacks the key that the location ends with. -/
  | missingKey
  /-- The array is too short. -/
  | tooFew (expected actual : Nat)
  /-- The value differs from the expected one. -/
  | differs (expected : Json)
  /-- The expected type has no known name. -/
  | unknownType (name : String)
  /-- The value has another type. -/
  | wrongType (spec : TypeSpec)
  /-- The value is no object. -/
  | notObject
  /-- The expectation is neither a type name nor an object. -/
  | unsupportedType (expected : Json)
deriving Repr

/-- A value that a predicate refused. -/
structure Rejection where
  complaint : Complaint
  location : Location
  actual : Json
deriving Repr

/-- The message of a rejection. -/
def Rejection.message (r : Rejection) : String :=
  let location := r.location.text
  match r.complaint with
  | .invalidPattern pattern error =>
    s!"invalid regex `{pattern}` at {location}: {error.message}"
  | .unmatched pattern => s!"expected {r.actual} at {location} to match /{pattern}/"
  | .missingKey => s!"expected key `{location}` to be present"
  | .tooFew expected actual => s!"expected at least {expected} elements at {location}, got {actual}"
  | .differs expected => s!"expected {expected} at {location}, got {r.actual}"
  | .unknownType name => TypeSpec.unknownMessage name ++ " at " ++ location
  | .wrongType spec =>
    s!"expected {location} to be of type {spec.text}, got {r.actual.typeName}"
  | .notObject => s!"expected {location} to be an object, got {r.actual.typeName}"
  | .unsupportedType expected => s!"unsupported type expectation {expected} at {location}"

/-- Why a path does not lead to values that satisfy a predicate. -/
inductive Mismatch where
  /-- The path has an empty part between two dots. -/
  | invalidPath (path : String)
  /-- A value has nothing under a key. -/
  | navigation (key : String) (value : Json)
  /-- A wildcard met a value without elements. -/
  | notContainer (path : String) (value : Json)
  /-- Some elements fail where all should match; only the last one is kept. -/
  | allFailed (path : String) (total failed : Nat) (last : Mismatch)
  /-- Some elements fail where all should match; all of them are kept. -/
  | allFailures (path : String) (total : Nat) (failures : List Mismatch)
  /-- No element matches where one should. -/
  | noneMatched (path : String) (elementCount failureCount : Nat) (elements : Json)
  /-- A predicate refused a value. -/
  | rejected (rejection : Rejection)
deriving Repr

namespace Mismatch

mutual

/-- The message of a mismatch. -/
def message : Mismatch → String
  | .invalidPath path => s!"invalid path `{path}`, contains '..'"
  | .navigation key value =>
    s!"expected {value.typeName}\nto be an object with property `{key}`"
  | .notContainer path value =>
    s!"expected `{path}` to be array or object, got {value.typeName}"
  | .allFailed path total failed last =>
    s!"{failed} of {total} elements in `{path}` did not match: {last.message}"
  | .allFailures path total failures =>
    s!"{failures.length} of {total} elements in `{path}` did not match:" ++ listing failures
  | .noneMatched path elementCount _ _ =>
    s!"expected at least one of {elementCount} elements in `{path}` to match, 0 matched"
  | .rejected rejection => rejection.message

/-- Messages on lines of their own. -/
def listing : List Mismatch → String
  | [] => ""
  | failure :: failures => "\n  - " ++ failure.message ++ listing failures

end

mutual

/-- The value that a mismatch points at, through the last failure of a wildcard. -/
def element? : Mismatch → Option Json
  | .invalidPath _ => none
  | .navigation _ value => some value
  | .notContainer _ value => some value
  | .allFailed _ _ _ last => last.element?
  | .allFailures _ _ failures => lastElement? failures
  | .noneMatched _ _ _ elements => some elements
  | .rejected rejection => some rejection.actual

/-- The value that the last of several mismatches points at. -/
def lastElement? : List Mismatch → Option Json
  | [] => none
  | [failure] => failure.element?
  | _ :: failures => lastElement? failures

end

end Mismatch

end ResponseCheck
