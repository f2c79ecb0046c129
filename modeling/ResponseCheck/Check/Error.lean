import ResponseCheck.Document.Read
import ResponseCheck.Http.Response.Parser
import ResponseCheck.Schema.Error
import ResponseCheck.Settings.File

/-! A check is not run if one of its inputs cannot be read, is malformed or is missing, or if its
request is not answered. The message names the input and gives the reason. -/

namespace ResponseCheck.Check

/-- Why a check is not run. -/
inductive Error where
  | settingsUnread (path reason : String)
  | settingsMalformed (path text : String) (error : Settings.FileError)
  | rulesFormat (path : String)
  | rulesUnopened (path reason : String)
  | rulesUnread (format : Document.Format) (reason : String)
  | rulesMalformed (error : Document.Error)
  /-- The rules are not an object. -/
  | rulesShape
  | rulesMisfit (error : Schema.Error)
  /-- The expectation at an index is about the status, but has a path. -/
  | statusPath (index : Nat)
  /-- The expectation at an index is about the status, but expects none. -/
  | statusValue (index : Nat)
  | responseUnread (path reason : String)
  | responseMalformed (error : Http.ParseError)
  | requestFailed (reason : String)
  /-- There is neither a recorded response nor a request. -/
  | noResponse
deriving Repr

/-- The message of an error. -/
def Error.message : Error → String
  | .settingsUnread path reason => s!"failed to read config file `{path}`: {reason}"
  | .settingsMalformed path text error => s!"invalid config file `{path}`: " ++ error.message text
  | .rulesFormat path =>
    s!"unable to resolve rules format from `{path}`: " ++ Document.unsupportedMessage path
  | .rulesUnopened path reason => s!"failed to open rules file `{path}`: {reason}"
  | .rulesUnread .json reason => Document.jsonHeading ++ reason
  | .rulesUnread .yaml reason => Document.yamlHeading ++ reason
  | .rulesMalformed error => error.message
  | .rulesShape => "rules file must contain exactly one object"
  | .rulesMisfit error => "invalid rules schema: " ++ error.message
  | .statusPath index => s!"expectation {index}: status expectations do not take a path"
  | .statusValue index => s!"expectation {index}: status must be an integer HTTP status code"
  | .responseUnread path reason => s!"failed to read response file `{path}`: {reason}"
  | .responseMalformed error => error.message
  | .requestFailed reason => "request failed: " ++ reason
  | .noResponse => "rules must define a `request` block unless --response is given"

end ResponseCheck.Check
