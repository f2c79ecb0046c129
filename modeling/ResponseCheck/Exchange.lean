import ResponseCheck.Http.Request
import ResponseCheck.Http.Response

/-! An exchange is shown to a reader by a dump: the time, the request if there is one, and the
response. A JSON body is shown indented, and the answer to a `HEAD` request without a body. -/

namespace ResponseCheck

/-- A response, and the request that it answers; a response that was recorded elsewhere has none. -/
structure Exchange where
  request : Option Http.Request
  response : Http.Response
deriving DecidableEq, Repr

namespace Exchange

/-- The text that shows a request. -/
def requestText (request : Http.Request) : String :=
  let payload := request.payload.getD ""
  s!"REQUEST: {request.method.name} {request.url}\n"
    ++ s!"  HEADERS:\n{request.headers.toJson.pretty}\n"
    ++ s!"  PAYLOAD:\n{payload}\n"

/-- Whether the request asked for the head alone. -/
def isHead (exchange : Exchange) : Bool := exchange.request.any (·.method == .head)

/-- The text that shows a body: pretty JSON where the headers say so and the body is JSON. -/
def bodyText (response : Http.Response) (json : Except Http.DecodeError Json) : String :=
  match response.isJson, json with
  | true, .ok value => s!"  JSON_BODY\n{value.pretty}\n"
  | _, _ => s!"  BODY\n{response.text}\n"

/-- The text that shows a response. -/
def responseText (exchange : Exchange) (json : Except Http.DecodeError Json) : String :=
  let response := exchange.response
  s!"RESPONSE: {response.status.val}\n"
    ++ s!"  HEADERS:\n{response.headers.toJson.pretty}\n"
    ++ (if exchange.isHead then "" else bodyText response json)

/-- The text that shows an exchange to a reader, under a time stamp, from the decoded body. -/
def dumpOf (exchange : Exchange) (json : Except Http.DecodeError Json) (stamp : String) : String :=
  s!"TIME: {stamp}\n" ++ (exchange.request.map requestText).getD "" ++ exchange.responseText json

/-- The text that shows an exchange to a reader, under a time stamp. -/
def dump (exchange : Exchange) (stamp : String) : String :=
  exchange.dumpOf exchange.response.json stamp

end Exchange

end ResponseCheck
