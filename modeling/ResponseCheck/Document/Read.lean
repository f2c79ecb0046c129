import ResponseCheck.Document.Format
import ResponseCheck.Json.Reader
import ResponseCheck.Yaml.Read

/-! A document is JSON or YAML, and a YAML document has to have a value that JSON can express. -/

namespace ResponseCheck.Document

/-- Why a document has no JSON value. -/
inductive Error where
  | json (error : Json.ReadError)
  | yaml (error : Yaml.Error)
  /-- A YAML document that JSON cannot express. -/
  | notJson (error : Yaml.Value.JsonError)
deriving Repr

/-- The start of messages about JSON. -/
def jsonHeading : String := "json parse error: "

/-- The start of messages about YAML. -/
def yamlHeading : String := "yaml parse error: "

/-- The message of an error. -/
def Error.message : Error → String
  | .json error => jsonHeading ++ error.message
  | .yaml error => yamlHeading ++ error.message
  | .notJson error => jsonHeading ++ error.message

/-- The JSON value of a document. -/
def read (format : Format) (bytes : List UInt8) : Except Error Json :=
  match format with
  | .json => (Json.read .stream bytes).mapError .json
  | .yaml => do
    let value ← (Yaml.read bytes).mapError .yaml
    value.toJson.mapError .notJson

end ResponseCheck.Document
