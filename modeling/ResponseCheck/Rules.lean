import ResponseCheck.Http.Method
import ResponseCheck.Schema.Decode

/-!
# Rules

A rules file says which request to send, and what to expect of the response.
-/

namespace ResponseCheck

/-- A request to send before expectations are checked. -/
structure RequestRule where
  method : Http.Method := .get
  url : String
  headers : Http.Headers := .empty
  body : Option Json := none
  /-- Whether the body is sent as it is, and not as JSON. -/
  nonjson : Bool := false
deriving Repr

/-- What an expectation is about, and how it is checked. -/
inductive ExpectationKind where
  | json | jsonTypes | header | headerTypes | status
deriving DecidableEq, Repr

namespace ExpectationKind

/-- Every kind. -/
def all : List ExpectationKind := [.json, .jsonTypes, .header, .headerTypes, .status]

/-- The name of a kind. -/
def name : ExpectationKind → String
  | .json => "json"
  | .jsonTypes => "json_types"
  | .header => "header"
  | .headerTypes => "header_types"
  | .status => "status"

end ExpectationKind

/-- An expectation. -/
structure ExpectationRule where
  kind : ExpectationKind
  path : Option String := none
  optional : Bool := false
  expected : Json
deriving Repr

/-- The content of a rules file. -/
structure Rules where
  request : Option RequestRule := none
  expectations : List ExpectationRule := []
deriving Repr

/-- Reads the name of a method. -/
def Http.Method.decode : Json → Except Schema.Error Http.Method :=
  Schema.variant (Http.Method.all.map fun method => (method.name, method))

/-- The fields of a request. -/
def RequestRule.schema : Schema.Record RequestRule where
  name := "RequestRule"
  fields := [
    { name := "method"
      read := fun v r => return { r with method := ← Http.Method.decode v } },
    { name := "url", omission := .never
      read := fun v r => return { r with url := ← Schema.string v } },
    { name := "headers"
      read := fun v r => return { r with headers := ← Schema.headers v } },
    { name := "body"
      read := fun v r => return { r with body := ← Schema.optional .ok v } },
    { name := "nonjson"
      read := fun v r => return { r with nonjson := ← Schema.bool v } }]

/-- Reads a request. -/
def RequestRule.decode : Json → Except Schema.Error RequestRule :=
  RequestRule.schema.decode { url := "" }

/-- Reads the name of a kind. -/
def ExpectationKind.decode : Json → Except Schema.Error ExpectationKind :=
  Schema.variant (ExpectationKind.all.map fun kind => (kind.name, kind))

/-- The fields of an expectation. -/
def ExpectationRule.schema : Schema.Record ExpectationRule where
  name := "ExpectationRule"
  fields := [
    { name := "kind", omission := .never
      read := fun v r => return { r with kind := ← ExpectationKind.decode v } },
    { name := "path"
      read := fun v r => return { r with path := ← Schema.optional Schema.string v } },
    { name := "optional"
      read := fun v r => return { r with optional := ← Schema.bool v } },
    { name := "expected", omission := .never
      read := fun v r => return { r with expected := v } }]

/-- Reads an expectation. -/
def ExpectationRule.decode : Json → Except Schema.Error ExpectationRule :=
  ExpectationRule.schema.decode { kind := .json, expected := .null }

/-- The fields of rules. -/
def Rules.schema : Schema.Record Rules where
  name := "CheckRules"
  fields := [
    { name := "request"
      read := fun v r => return { r with request := ← Schema.optional RequestRule.decode v } },
    { name := "expectations"
      read := fun v r =>
        return { r with expectations := ← Schema.list ExpectationRule.decode v } }]

/-- Reads rules. -/
def Rules.decode : Json → Except Schema.Error Rules := Rules.schema.decode {}

/-- A request with all fields. -/
def RequestRule.toJson (r : RequestRule) : Json :=
  .obj [("method", .str r.method.name), ("url", .str r.url), ("headers", r.headers.toJson),
    ("body", r.body.getD .null), ("nonjson", .bool r.nonjson)]

/-- An expectation with all fields. -/
def ExpectationRule.toJson (r : ExpectationRule) : Json :=
  .obj [("kind", .str r.kind.name), ("path", (r.path.map .str).getD .null),
    ("optional", .bool r.optional), ("expected", r.expected)]

/-- Rules with all fields. -/
def Rules.toJson (r : Rules) : Json :=
  .obj [("request", (r.request.map RequestRule.toJson).getD .null),
    ("expectations", .arr (r.expectations.map ExpectationRule.toJson))]

end ResponseCheck
