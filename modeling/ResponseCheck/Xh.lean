import ResponseCheck.Http.Request
import ResponseCheck.Http.Response.Parser

/-! The tool `xh` gets a request as a list of arguments, and prints the raw response. -/

namespace ResponseCheck.Xh

open Http (Request Response)

/-- The arguments of the tool for a request. -/
def arguments (request : Request) : List String :=
  ["--ignore-stdin", "--pretty=none", "--print=hb"]
    ++ (if request.followRedirects then ["--follow"] else [])
    ++ request.proxy.toList.map ("--proxy=all:" ++ ·)
    ++ request.timeoutSeconds.toList.map (fun seconds => s!"--timeout={seconds}")
    ++ [request.method.name, request.url]
    ++ request.headers.entries.map (fun (name, value) => name ++ ":" ++ value)
    ++ request.payload.toList.flatMap (["--raw", ·])

/-- What became of a run of the tool. -/
inductive Run where
  /-- There is no such tool. -/
  | missing
  /-- The tool could not be started. -/
  | notStarted (reason : String)
  /-- The tool ended, well or not, and wrote some output. -/
  | ended (success : Bool) (output diagnostics : List UInt8)
deriving Repr

/-- Why there is no response. -/
inductive Error where
  | unavailable
  | spawn (reason : String)
  | execution (diagnostics : String)
  | invalidResponse (error : Http.ParseError)
deriving DecidableEq, Repr

/-- The message of an error. -/
def Error.message : Error → String
  | .unavailable => "`xh` is not available in PATH"
  | .spawn reason => "failed to spawn xh: " ++ reason
  | .execution diagnostics => "xh execution failed: " ++ diagnostics
  | .invalidResponse error => "failed to parse xh response: " ++ error.message

/-- The diagnostics of a failed run as text. -/
def diagnosticsText (diagnostics : List UInt8) : String :=
  match Utf8.decode diagnostics with
  | .ok text => Text.trim text
  | .error _ => "failed to decode xh stderr"

/-- The response that a run gives. -/
def Run.response : Run → Except Error Response
  | .missing => .error .unavailable
  | .notStarted reason => .error (.spawn reason)
  | .ended true output _ => (Response.parse output).mapError .invalidResponse
  | .ended false _ diagnostics => .error (.execution (diagnosticsText diagnostics))

/-- Whether a list of arguments can be passed to a tool: none has a character of code zero. -/
def passable (arguments : List String) : Bool :=
  arguments.all fun argument => argument.toList.all (· != '\x00')

/-- Sends a request with a given way to run the tool. -/
def send {m : Type → Type} [Monad m] (run : List String → m Run) (request : Request) :
    m (Except Error Response) :=
  if passable (arguments request) then do
    return (← run (arguments request)).response
  else return .error (.spawn "nul byte found in provided data")

end ResponseCheck.Xh
