import ResponseCheck.Exchange
import ResponseCheck.Expectation
import ResponseCheck.Settings

/-!
# Sessions

A session sends requests through a transport, keeps the last exchange, and checks expectations
against it. A request drops the exchange before it, whether or not a response comes.
-/

namespace ResponseCheck

/-- A way to send requests, with errors in `ε`. -/
abbrev Transport (m : Type → Type) (ε : Type) := Http.Request → m (Except ε Http.Response)

/-- Settings, policy, and the last exchange. -/
structure Session where
  settings : Settings := {}
  policy : Policy := .mostRecent
  exchange : Option Exchange := none
deriving Repr

/-- A failed action, with the last exchange or without. -/
inductive Captured (ε : Type) where
  /-- There was no exchange; the error is as it was. -/
  | unobserved (error : ε)
  /-- The failure shows the last exchange. -/
  | observed (failure : Failure)

namespace Session

variable {m : Type → Type} [Monad m] {ε α : Type}

/-- Sends a request, and keeps the exchange if there is a response. -/
def request (transport : Transport m ε) (method : Http.Method) (url : String)
    (options : Http.RequestOptions) : StateT Session m (Except ε Http.Response) := do
  let prepared := (← get).settings.prepare method url options
  -- A request that fails leaves no exchange behind.
  modify ({ · with exchange := none })
  match ← transport prepared with
  | .error error => return .error error
  | .ok response =>
    modify ({ · with exchange := some ⟨some prepared, response⟩ })
    return .ok response

/-- Keeps a response that was recorded elsewhere. -/
def load (session : Session) (response : Http.Response) : Session :=
  { session with exchange := some ⟨none, response⟩ }

/-- The last response. -/
def response (session : Session) : Except Failure Http.Response :=
  match session.exchange with
  | some exchange => .ok exchange.response
  | none => .error ⟨.noResponse, []⟩

/-- The body of the last response. -/
def json (session : Session) : Except Failure Json := do
  (← session.response).json.mapError (⟨.undecodable ·, []⟩)

/-- Checks the body of the last response. -/
def expectJson (session : Session) (predicate : Predicate) (expectation : Expectation) :
    Except Failure Unit := do
  let body ← session.json.mapError (·.withFrame (.arguments expectation.toJson))
  expectation.check predicate session.policy body

/-- A decoded body, once it was asked for. -/
abbrev Memo := Option (Except Http.DecodeError Json)

/-- The decoded body of a response: the one that is kept, or else decoded now, and kept. -/
def decodeOnce (response : Http.Response) : StateM Memo (Except Http.DecodeError Json) := do
  match ← get with
  | some body => return body
  | none =>
    let body := response.json
    set (some body)
    return body

/-- A value with the names of its own entries made small. -/
def lowerKeys : Json → Json
  | .obj entries => Json.object (entries.map fun (name, value) => (Text.asciiLower name, value))
  | value => value

/-- The expectation with the names of headers made small: those of its path, or else those of the
entries that it expects. -/
def foldHeaderNames (expectation : Expectation) : Expectation :=
  match expectation.path with
  | some path => { expectation with path := some (Text.asciiLower path) }
  | none => { expectation with expected := lowerKeys expectation.expected }

/-- Checks the headers of the last response. -/
def expectHeader (session : Session) (predicate : Predicate) (expectation : Expectation) :
    Except Failure Unit := do
  let headers := (← session.response).headers.toJson
  (foldHeaderNames expectation).check predicate session.policy headers

/-- Checks the status of the last response. -/
def expectStatus (session : Session) (expected : Http.Status) : Except Failure Unit := do
  let actual := (← session.response).status
  if actual = expected then return ()
  else .error ⟨.wrongStatus expected actual, [.arguments (.arr [.int expected.val])]⟩

/-- Runs an action; a failure shows the last exchange, if there is one. -/
def guard (clock : m String) (toFailure : ε → Failure) (action : StateT Session m (Except ε α)) :
    StateT Session m (Except (Captured ε) α) := do
  match ← action with
  | .ok result => return .ok result
  | .error error =>
    -- The action may have replaced or dropped the exchange that was there before.
    match (← get).exchange with
    | none => return .error (.unobserved error)
    | some exchange =>
      let dump := exchange.dump (← clock)
      return .error (.observed ((toFailure error).withFrame (.diagnostics dump)))

end Session

/-- The failure of a failed action. -/
def Captured.failure {ε : Type} (toFailure : ε → Failure) : Captured ε → Failure
  | .unobserved error => toFailure error
  | .observed failure => failure

end ResponseCheck
