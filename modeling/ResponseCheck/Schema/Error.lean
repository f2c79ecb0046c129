import ResponseCheck.Json.Printer
import ResponseCheck.Text.Quoted

/-! Data that is well formed may still not have the shape that is wanted. An error says what was
found and what was expected. -/

namespace ResponseCheck.Schema

/-- What was found in the place of something else. -/
inductive Found where
  | null
  | bool (value : Bool)
  | integer (value : Int)
  | float (digits : String)
  | text (value : String)
  | sequence
  | map
deriving DecidableEq, Repr

/-- The words for what was found. -/
def Found.words : Found → String
  | .null => "null"
  | .bool value => s!"boolean `{value}`"
  | .integer value => s!"integer `{value}`"
  | .float digits => s!"floating point `{digits}`"
  | .text value => "string " ++ Text.quoted value
  | .sequence => "sequence"
  | .map => "map"

/-- What a JSON value is found to be. -/
def Found.ofJson : Json → Found
  | .null => .null
  | .bool value => .bool value
  | .num (.int value) => .integer value
  | .num (.float value) => .float (Json.Number.float value).text
  | .str value => .text value
  | .arr _ => .sequence
  | .obj _ => .map

/-- How data misses a shape. -/
inductive Error where
  | missingField (name : String)
  | unknownField (name : String) (known : List String)
  | unknownVariant (name : String) (known : List String)
  | wrongType (found : Found) (expected : String)
  | wrongValue (found : Found) (expected : String)
  | wrongLength (length : Nat) (expected : String)
deriving DecidableEq, Repr

/-- The choice between names. -/
def choice : List String → String
  | [a] => s!"`{a}`"
  | [a, b] => s!"`{a}` or `{b}`"
  | names => "one of " ++ String.intercalate ", " (names.map fun name => s!"`{name}`")

/-- The message of an error. -/
def Error.message : Error → String
  | .missingField name => s!"missing field `{name}`"
  | .unknownField name known => s!"unknown field `{name}`, expected {choice known}"
  | .unknownVariant name known => s!"unknown variant `{name}`, expected {choice known}"
  | .wrongType found expected => s!"invalid type: {found.words}, expected {expected}"
  | .wrongValue found expected => s!"invalid value: {found.words}, expected {expected}"
  | .wrongLength length expected => s!"invalid length {length}, expected {expected}"

end ResponseCheck.Schema
