import ResponseCheck.Http.Headers
import ResponseCheck.Http.Method
import ResponseCheck.Json.Printer

/-! A caller asks for a request with headers and a body. What is sent has all its headers, those of
the settings too, and the text of the body. -/

namespace ResponseCheck.Http

/-- What a caller wants to send. -/
inductive Body where
  /-- A value, sent as JSON text. -/
  | json (value : Json)
  /-- A text, sent as it is. -/
  | raw (text : String)
deriving Repr

/-- The text that is sent for a body. -/
def Body.payload : Body → String
  | .json value => value.compact
  | .raw text => text

/-- Whether a body is sent as it is. -/
def Body.isRaw : Body → Bool
  | .json _ => false
  | .raw _ => true

/-- The headers of a request in the order in which they were given, and its body. -/
structure RequestOptions where
  headers : List (String × String) := []
  body : Option Body := none
deriving Repr

/-- A request with everything that is needed to send it. -/
structure Request where
  method : Method
  url : String
  headers : Headers
  payload : Option String
  proxy : Option String
  followRedirects : Bool
  timeoutSeconds : Option Nat
deriving DecidableEq, Repr

end ResponseCheck.Http
