import ResponseCheck.Http.Headers
import ResponseCheck.Schema.Error

/-!
# Decoding JSON by a schema

A record is written as an object, or as an array of its fields in order. Fields are read in the
order in which they are written, so that the first fault is the one that is reported.
-/

namespace ResponseCheck.Schema

/-- The error that a value has a wrong type. -/
def unexpected {α : Type} (value : Json) (expected : String) : Except Error α :=
  .error (.wrongType (.ofJson value) expected)

/-- Reads a truth value. -/
def bool : Json → Except Error Bool
  | .bool b => .ok b
  | value => unexpected value "a boolean"

/-- Reads a text. -/
def string : Json → Except Error String
  | .str text => .ok text
  | value => unexpected value "a string"

/-- Reads a natural number of 64 bits, which messages call by the name `type`. -/
def natural (type : String) : Json → Except Error Nat
  | .num (.int (.ofNat n)) => .ok n
  | .num (.int n) => .error (.wrongValue (.integer n) type)
  | value => unexpected value type

/-- Reads a value or null. -/
def optional {α : Type} (read : Json → Except Error α) : Json → Except Error (Option α)
  | .null => .ok none
  | value => some <$> read value

/-- Reads an array. -/
def list {α : Type} (read : Json → Except Error α) : Json → Except Error (List α)
  | .arr items => items.mapM read
  | value => unexpected value "a sequence"

/-- Reads an object of texts. -/
def headers : Json → Except Error Http.Headers
  | .obj entries => do
    return .ofList (← entries.mapM fun (name, value) => do return (name, ← string value))
  | value => unexpected value "a map"

/-- Reads a name as one of several variants. The name may also be the only key of an object, with
null as its value. -/
def variant {α : Type} (variants : List (String × α)) (value : Json) : Except Error α := do
  let pick (name : String) : Except Error α :=
    match variants.lookup name with
    | some a => .ok a
    | none => .error (.unknownVariant name (variants.map (·.1)))
  match value with
  | .str name => pick name
  | .obj [(name, content)] =>
    let a ← pick name
    match content with
    | .null => return a
    | _ => unexpected content "unit"
  | .obj _ => .error (.wrongValue .map "map with a single key")
  | _ => unexpected value "string or map"

/-- Where a field may be left out. -/
inductive Omission where
  | never
  /-- In objects, but not in arrays. -/
  | inObjects
  | anywhere
deriving DecidableEq, Repr

/-- A field of a record that is gathered in a `ρ`. -/
structure Field (ρ : Type) where
  name : String
  omission : Omission := .anywhere
  read : Json → ρ → Except Error ρ

/-- A record with its name in messages, its fields, and whether other keys are refused. -/
structure Record (ρ : Type) where
  name : String
  fields : List (Field ρ)
  closed : Bool := true

namespace Record

variable {ρ : Type}

/-- Reads the entries of an object onto a record. -/
def readEntries (r : Record ρ) (entries : List (String × Json)) (x : ρ) : Except Error ρ :=
  entries.foldlM
    (fun x (name, value) =>
      match r.fields.find? (·.name == name) with
      | some field => field.read value x
      | none =>
        if r.closed then .error (.unknownField name (r.fields.map (·.name))) else .ok x)
    x

/-- The first field that an object must have but has not. -/
def missing? (r : Record ρ) (entries : List (String × Json)) : Option (Field ρ) :=
  r.fields.find? fun field => field.omission == .never && (Json.get? entries field.name).isNone

/-- Reads items onto the fields from an index on; gives the items that are left. -/
def readItems (r : Record ρ) (index : Nat) :
    List (Field ρ) → List Json → ρ → Except Error (List Json × ρ)
  | [], items, x => .ok (items, x)
  | field :: fields, item :: items, x => do
    readItems r (index + 1) fields items (← field.read item x)
  | field :: fields, [], x =>
    if field.omission = .anywhere then readItems r (index + 1) fields [] x
    else
      .error (.wrongLength index s!"struct {r.name} with {r.fields.length} elements")

/-- Reads a record, where `x` holds what omitted fields stand for. -/
def decode (r : Record ρ) (x : ρ) : Json → Except Error ρ
  | .obj entries => do
    let x ← r.readEntries entries x
    -- Faults in what is written come before what is missing.
    match r.missing? entries with
    | some field => .error (.missingField field.name)
    | none => return x
  | .arr items => do
    let (rest, x) ← r.readItems 0 r.fields items x
    if rest.isEmpty then return x
    else .error (.wrongLength items.length "fewer elements in array")
  | value => unexpected value ("struct " ++ r.name)

end Record

end ResponseCheck.Schema
