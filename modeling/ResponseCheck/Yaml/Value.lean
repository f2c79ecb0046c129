import ResponseCheck.Json.Printer
import ResponseCheck.Yaml.CoreSchema

/-!
# YAML values

A mapping may have any values as keys, and a value may have a tag. What can be written as JSON has
only keys with a text.
-/

namespace ResponseCheck.Yaml

/-- A value. -/
inductive Value where
  | null
  | bool (value : Bool)
  | int (value : Int)
  | real (value : Extended)
  | str (value : String)
  | seq (items : List Value)
  | map (entries : List (Value × Value))
  | tagged (tag : String) (value : Value)
deriving Repr

namespace Value

instance : Inhabited Value := ⟨.null⟩

/-- The text of a tag in front of a value. -/
def tagText (tag : String) : String :=
  match tag.toList with
  | '!' :: c :: rest => String.ofList ('!' :: c :: rest)
  | name => String.ofList ('!' :: name)

mutual

/-- Whether two values are the same as keys: the order of entries does not count. -/
def same : Value → Value → Bool
  | .null, .null => true
  | .bool a, .bool b => a == b
  | .int a, .int b => a == b
  | .real a, .real b => a.eqv b
  | .str a, .str b => a == b
  | .seq as, .seq bs => sameItems as bs
  | .map as, .map bs => as.length == bs.length && entriesIn as bs
  | .tagged s a, .tagged t b => tagText s == tagText t && same a b
  | _, _ => false

/-- Whether two lists have the same values. -/
def sameItems : List Value → List Value → Bool
  | [], [] => true
  | a :: as, b :: bs => same a b && sameItems as bs
  | _, _ => false

/-- Whether each entry occurs among others. -/
def entriesIn : List (Value × Value) → List (Value × Value) → Bool
  | [], _ => true
  | (k, v) :: rest, others =>
    others.any (fun (l, w) => same k l && same v w) && entriesIn rest others

end

/-- Why a value cannot be written as JSON. -/
inductive JsonError where
  | keyNotText
  | keyNotFinite
deriving DecidableEq, Repr

/-- The message of an error. -/
def JsonError.message : JsonError → String
  | .keyNotText => "key must be a string"
  | .keyNotFinite => "float key must be finite (got NaN or +/-inf)"

/-- A key as the name of an entry. -/
def keyText : Value → Except JsonError String
  | .str text => .ok text
  | .bool b => .ok (toString b)
  | .int n => .ok (Json.Number.int n).text
  | .real (.finite x) => .ok (Json.Number.float x).text
  | .real _ => .error .keyNotFinite
  | _ => .error .keyNotText

mutual

/-- A value as JSON: numbers that are not finite become null, and a tag becomes a key. -/
def toJson : Value → Except JsonError Json
  | .null => .ok .null
  | .bool b => .ok (.bool b)
  | .int n => .ok (.int n)
  | .real (.finite x) => .ok (.num (.float x))
  | .real _ => .ok .null
  | .str text => .ok (.str text)
  | .seq items => .arr <$> itemsToJson items
  | .map entries => Json.object <$> entriesToJson entries
  | .tagged tag value => do return .obj [(tagText tag, ← toJson value)]

/-- The items of a sequence as JSON. -/
def itemsToJson : List Value → Except JsonError (List Json)
  | [] => .ok []
  | item :: rest => do return (← toJson item) :: (← itemsToJson rest)

/-- The entries of a mapping as JSON. -/
def entriesToJson : List (Value × Value) → Except JsonError (List (String × Json))
  | [] => .ok []
  | (key, value) :: rest => do
    let name ← keyText key
    let value ← toJson value
    return (name, value) :: (← entriesToJson rest)

end

end Value

end ResponseCheck.Yaml
