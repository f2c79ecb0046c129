import ResponseCheck.Calendar.Timestamp
import ResponseCheck.Json.Basic
import ResponseCheck.Text.Blank

/-!
# Type specifications

A type specification is the name of a base type, or `array_of_` with a base type in the singular or
plural, with an optional question mark that admits null.
-/

namespace ResponseCheck

/-- The named types of values. -/
inductive BaseType where
  | string | integer | float | number | boolean | null | array | object | date
deriving DecidableEq, Repr

/-- A base type, or arrays of a base type. -/
inductive ValueType where
  | base (type : BaseType)
  | arrayOf (element : BaseType)
deriving DecidableEq, Repr

/-- A type that may admit null. -/
structure TypeSpec where
  type : ValueType
  nullable : Bool
deriving DecidableEq, Repr

/-- Whether a value has a base type. -/
def BaseType.accepts : BaseType → Json → Bool
  | .string, .str _ => true
  | .integer, .num (.int _) => true
  | .float, .num (.float _) => true
  | .number, .num _ => true
  | .boolean, .bool _ => true
  | .null, .null => true
  | .array, .arr _ => true
  | .object, .obj _ => true
  | .date, .str text => Calendar.isTimestamp text
  | _, _ => false

/-- Whether a value has a type. -/
def ValueType.accepts : ValueType → Json → Bool
  | .base type, v => type.accepts v
  | .arrayOf element, .arr items => items.all element.accepts
  | .arrayOf _, _ => false

/-- Whether a value meets a specification. -/
def TypeSpec.accepts (spec : TypeSpec) (v : Json) : Bool :=
  (spec.nullable && v.isNull) || spec.type.accepts v

namespace BaseType

/-- The canonical name of a base type. -/
def name : BaseType → String
  | .string => "string"
  | .integer => "integer"
  | .float => "float"
  | .number => "number"
  | .boolean => "boolean"
  | .null => "null"
  | .array => "array"
  | .object => "object"
  | .date => "date"

/-- The base type with a name; three types have a second name. -/
def ofName? : String → Option BaseType
  | "string" => some .string
  | "integer" => some .integer
  | "int" => some .integer
  | "float" => some .float
  | "number" => some .number
  | "boolean" => some .boolean
  | "bool" => some .boolean
  | "null" => some .null
  | "array" => some .array
  | "object" => some .object
  | "hash" => some .object
  | "date" => some .date
  | _ => none

end BaseType

/-- The text before the base type of an array. -/
def ValueType.arrayMark : String := "array_of_"

/-- The text of a type. -/
def ValueType.text : ValueType → String
  | .base type => type.name
  | .arrayOf element => arrayMark ++ element.name ++ "s"

/-- The text of a specification. -/
def TypeSpec.text (spec : TypeSpec) : String :=
  spec.type.text ++ (if spec.nullable then "?" else "")

/-- Drops a last element equal to `c`, if there is one. -/
def dropLast? (c : Char) (cs : List Char) : Option (List Char) :=
  if cs.getLast? = some c then some cs.dropLast else none

/-- Reads a type. -/
def ValueType.parse? (cs : List Char) : Option ValueType :=
  let mark := arrayMark.toList
  if mark.isPrefixOf cs then
    -- The singular and the plural mean the same.
    let element := cs.drop mark.length
    let singular := (dropLast? 's' element).getD element
    (BaseType.ofName? (String.ofList singular)).map .arrayOf
  else (BaseType.ofName? (String.ofList cs)).map .base

/-- Reads a specification; blanks around it are ignored. -/
def TypeSpec.parse? (text : String) : Option TypeSpec :=
  let trimmed := Text.trimChars text.toList
  match dropLast? '?' trimmed with
  | some name => (ValueType.parse? name).map (⟨·, true⟩)
  | none => (ValueType.parse? trimmed).map (⟨·, false⟩)

/-- What is said of a text that is no specification. -/
def TypeSpec.unknownMessage (text : String) : String := s!"unknown type `{text}`"

/-- Reads a specification, or tells why there is none. -/
def TypeSpec.parse (text : String) : Except String TypeSpec :=
  match TypeSpec.parse? text with
  | some spec => .ok spec
  | none => .error (unknownMessage text)

end ResponseCheck
