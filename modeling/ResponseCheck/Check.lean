import ResponseCheck.Check.Plan

/-!
# Checks

A check reads settings and rules, gets a response, and reports which expectations it meets. The
response is a recorded one, or the answer to the request of the rules; a request is sent only if all
that is read is well formed.
-/

namespace ResponseCheck.Check

/-- What a path leads to. -/
inductive File where
  | unavailable (reason : String)
  | directory
  | regular (content : List UInt8)
deriving Repr

/-- The content of a file, or why there is none. -/
def File.content : File → Except String (List UInt8)
  | .unavailable reason => .error reason
  | .directory => .error "Is a directory (os error 21)"
  | .regular content => .ok content

/-- What a check finds around it: files, a way to send requests, the words for its errors, and the
time of day. -/
structure Surroundings (m : Type → Type) (ε : Type) where
  file : String → m File
  transport : Transport m ε
  words : ε → String
  clock : m String

/-- What a check is asked to do. -/
structure Arguments where
  rules : String
  response : Option String := none
  settings : Option String := none
  /-- Whether a failure under `*` tells of every failing element. -/
  strict : Bool := false
deriving DecidableEq, Repr

/-- The policy for failures under `*`. -/
def Arguments.policy (arguments : Arguments) : Policy :=
  if arguments.strict then .collectAll else .mostRecent

/-- The report of a check, or why it was not run. -/
abbrev Outcome := Except Error Report

/-! ### Reading -/

/-- The settings in a file. -/
def readSettings (path : String) (file : File) : Except Error Settings := do
  let content ← file.content.mapError (.settingsUnread path)
  match Utf8.decode content with
  | .error _ => .error (.settingsUnread path "stream did not contain valid UTF-8")
  | .ok text => (Settings.ofToml text).mapError (.settingsMalformed path text)

/-- The rules in a file of a format. -/
def readRules (path : String) (format : Document.Format) (file : File) : Except Error Rules := do
  -- A directory can be opened, and fails only when it is read.
  if let .unavailable reason := file then .error (.rulesUnopened path reason)
  let content ← file.content.mapError (.rulesUnread format)
  let value ← (Document.read format content).mapError .rulesMalformed
  match value with
  | .obj _ => (Rules.decode value).mapError .rulesMisfit
  | _ => .error .rulesShape

/-- The recorded response in a file. -/
def readResponse (path : String) (file : File) : Except Error Http.Response := do
  let content ← file.content.mapError (.responseUnread path)
  (Http.Response.parse content).mapError .responseMalformed

/-! ### Running -/

variable {m : Type → Type} [Monad m] {ε : Type}

namespace Surroundings

/-- Reads the settings, if there is a file for them. -/
def settings (around : Surroundings m ε) (arguments : Arguments) : ExceptT Error m Settings :=
  match arguments.settings with
  | none => return {}
  | some path => do readSettings path (← around.file path)

/-- Reads the rules. -/
def rules (around : Surroundings m ε) (arguments : Arguments) : ExceptT Error m Rules :=
  match Document.Format.ofPath? arguments.rules with
  | none => throw (.rulesFormat arguments.rules)
  | some format => do readRules arguments.rules format (← around.file arguments.rules)

/-- Gets the response: the recorded one if there is a file for it, or else the answer to the
request. -/
def respond (around : Surroundings m ε) (arguments : Arguments) (request : Option RequestRule)
    (session : Session) : ExceptT Error m Session :=
  match arguments.response, request with
  | some path, _ => do
    let response ← readResponse path (← around.file path)
    return session.load response
  | none, some rule => do
    -- The only place that sends a request, after settings, rules and plans are read.
    let (answer, session) ←
      (Session.request around.transport rule.method rule.url rule.options).run session
    match answer with
    | .ok _ => return session
    | .error error => throw (.requestFailed (around.words error))
  | none, none => throw .noResponse

end Surroundings

/-- Runs a check. -/
def run (around : Surroundings m ε) (arguments : Arguments) : m Outcome := ExceptT.run do
  let settings ← around.settings arguments
  let rules ← around.rules arguments
  let plans ← Plan.ofRules 0 rules.expectations
  let session ← around.respond arguments rules.request { settings, policy := arguments.policy }
  let (results, _) ← (Plan.reports around.clock 0 plans).run session
  return Report.ofResults results

/-! ### Answers -/

/-- The answer to a caller who asked for something that cannot be done. -/
def refusal (message : String) (details : List (String × Json)) : Json :=
  .obj [("error", .str "input_usage_error"), ("message", .str message), ("code", .int 3),
    ("details", .obj details)]

namespace Outcome

/-- Zero if every expectation is met, two if one is not, and three if the check was not run. -/
def exitCode : Outcome → Nat
  | .ok report => if report.matched then 0 else 2
  | .error _ => 3

/-- The answer to the caller. -/
def toJson : Outcome → Json
  | .ok report => report.toJson
  | .error error => refusal error.message [("command", .str "check")]

end Outcome

end ResponseCheck.Check
