import ResponseCheck.Proofs.Session.Basic

/-!
# Runs of a session

A caller sends requests, loads responses and reads the last one, in any order and under any number
of guards. Around the session are a transport and a clock, which may do anything to a world of their
own. What goes over the wire is kept: each request that the transport is given, and its answer.

## Main definitions

* `Session.Operation` — what a caller asks of a session
* `Session.Environment`, `Session.Wire` — transport and clock, and what went over the wire
* `Session.Environment.step`, `Session.Environment.run` — one operation, and operations in turn

## Main results

* `Session.Environment.run_request_tapped` — what goes over the wire for a request
* `Session.Environment.step_request`, `Session.Environment.step_guard` — what one operation does
* `Session.Environment.step_guard_cases` — what a guard may add to its action
* `Session.Environment.run_append` — a run in two parts
* `Session.Environment.getElem?_run` — the outcome of an operation in the middle of a run
-/

namespace ResponseCheck.Session

/-- What a caller asks of a session. -/
inductive Operation where
  | request (method : Http.Method) (url : String) (options : Http.RequestOptions)
  | load (response : Http.Response)
  | read (reading : Reading)
  | guard (operation : Operation)

/-- What a caller is given when an operation does not fail. -/
inductive Answer where
  | response (response : Http.Response)
  | loaded
  | read (value : Option Json)

/-- Why an operation fails. -/
inductive Fault (ε : Type) where
  /-- The request got no response. -/
  | unsent (error : ε)
  /-- The last response is not as expected, or there is none. -/
  | unmet (failure : Failure)
  /-- A guard added a dump to a failure. -/
  | shown (failure : Failure)

/-- What a caller is told of an operation. -/
abbrev Outcome (ε : Type) := Except (Fault ε) Answer

variable {σ ε : Type}

/-- The failure that a fault is shown as. -/
def Fault.failure (toFailure : ε → Failure) : Fault ε → Failure
  | .unsent error => toFailure error
  | .unmet failure => failure
  | .shown failure => failure

/-- The fault that a guard leaves. -/
def Fault.ofCaptured : Captured (Fault ε) → Fault ε
  | .unobserved fault => fault
  | .observed failure => .shown failure

/-- Transport and clock, which share a world, and how errors of the transport are shown. -/
structure Environment (σ ε : Type) where
  transport : Transport (StateM σ) ε
  clock : StateM σ String
  toFailure : ε → Failure

/-- Carries out an operation. -/
def perform (env : Environment σ ε) : Operation → StateT Session (StateM σ) (Outcome ε)
  | .request method url options => do
    return ((← request env.transport method url options).map .response).mapError .unsent
  | .load response => do
    modify (·.load response)
    return .ok .loaded
  | .read reading => do
    return (((← get).read reading).map .read).mapError .unmet
  | .guard operation => do
    return (← guard env.clock (Fault.failure env.toFailure) (perform env operation)).mapError
      Fault.ofCaptured

/-! ### The wire -/

/-- The world around a session, and what went over the wire so far: requests and their answers. -/
structure Wire (σ ε : Type) where
  world : σ
  log : List (Http.Request × Except ε Http.Response) := []

/-- The environment that keeps what goes over the wire. -/
def Environment.tapped (env : Environment σ ε) : Environment (Wire σ ε) ε where
  transport := fun request wire =>
    let (answer, world) := env.transport request wire.world
    (answer, ⟨world, wire.log ++ [(request, answer)]⟩)
  clock := fun wire =>
    let (stamp, world) := env.clock wire.world
    (stamp, { wire with world })
  toFailure := env.toFailure

/-- A session with the wire to the world around it. -/
structure State (σ ε : Type) where
  session : Session
  wire : Wire σ ε

namespace Environment

variable (env : Environment σ ε)

/-- Carries out one operation. -/
def step (operation : Operation) (state : State σ ε) : Outcome ε × State σ ε :=
  let ((outcome, session), wire) :=
    ((perform env.tapped operation).run state.session).run state.wire
  (outcome, ⟨session, wire⟩)

/-- Carries out operations in turn. A fault does not keep those behind it from being carried out. -/
def run : List Operation → State σ ε → List (Outcome ε) × State σ ε
  | [], state => ([], state)
  | operation :: operations, state =>
    let (outcome, after) := env.step operation state
    let (outcomes, last) := run operations after
    (outcome :: outcomes, last)

variable {env} {state : State σ ε}

/-- What a request does to a session and to the wire. -/
theorem run_request_tapped (env : Environment σ ε) (session : Session) (wire : Wire σ ε)
    {method : Http.Method} {url : String} {options : Http.RequestOptions} {prepared : Http.Request}
    {answer : Except ε Http.Response} {world : σ}
    (hprepared : session.settings.prepare method url options = prepared)
    (hanswer : env.transport prepared wire.world = (answer, world)) :
    ((request env.tapped.transport method url options).run session).run wire =
      ((answer, { session with
          exchange := answer.toOption.map fun response => ⟨some prepared, response⟩ }),
        ⟨world, wire.log ++ [(prepared, answer)]⟩) := by
  have htapped : env.tapped.transport prepared wire =
      (answer, ⟨world, wire.log ++ [(prepared, answer)]⟩) := by
    simp only [tapped, hanswer]
  rw [run_request, hprepared]
  simp only [StateT.run, bind, StateT.bind, htapped]
  cases answer <;> rfl

theorem step_request {method : Http.Method} {url : String} {options : Http.RequestOptions}
    {prepared : Http.Request} {answer : Except ε Http.Response} {world : σ}
    (hprepared : state.session.settings.prepare method url options = prepared)
    (hanswer : env.transport prepared state.wire.world = (answer, world)) :
    env.step (.request method url options) state =
      ((answer.map .response).mapError .unsent,
        { session := { state.session with
            exchange := answer.toOption.map fun response => ⟨some prepared, response⟩ }
          wire := ⟨world, state.wire.log ++ [(prepared, answer)]⟩ }) := by
  rw [step, perform, StateT.run_bind, StateT.run_bind, run_request_tapped env _ _ hprepared hanswer]
  rfl

theorem step_load {response : Http.Response} :
    env.step (.load response) state =
      (.ok .loaded, { state with session := state.session.load response }) := rfl

theorem step_read {reading : Reading} :
    env.step (.read reading) state =
      (((state.session.read reading).map .read).mapError .unmet, state) := rfl

theorem step_guard {operation : Operation} :
    env.step (.guard operation) state =
      match env.step operation state with
      | (.ok answer, after) => (.ok answer, after)
      | (.error fault, after) =>
        match after.session.exchange with
        | none => (.error fault, after)
        | some exchange =>
          let (stamp, world) := env.clock after.wire.world
          let failure := (fault.failure env.toFailure).withFrame
            (.diagnostics (exchange.dump stamp))
          (.error (.shown failure), { after with wire := { after.wire with world } }) := by
  rcases houtcome : env.step operation state with ⟨outcome, after⟩
  have hperform : ((perform env.tapped operation).run state.session).run state.wire =
      ((outcome, after.session), after.wire) := by
    rw [step] at houtcome
    cases houtcome
    rfl
  rw [step, perform, StateT.run_bind, run_guard]
  simp only [StateT.run, bind, StateT.bind] at hperform ⊢
  simp only [hperform]
  cases outcome with
  | ok answer => rfl
  | error fault =>
    obtain ⟨⟨settings, policy, exchange⟩, wire⟩ := after
    cases exchange <;> rfl

/-- A guard does what its action does, and may add a dump to the failure. -/
theorem step_guard_cases (env : Environment σ ε) (operation : Operation) (state : State σ ε) :
    env.step (.guard operation) state = env.step operation state ∨
    ∃ fault dump world,
      (env.step operation state).1 = .error fault ∧
      env.step (.guard operation) state =
        (.error (.shown ((fault.failure env.toFailure).withFrame (.diagnostics dump))),
          { session := (env.step operation state).2.session
            wire := ⟨world, (env.step operation state).2.wire.log⟩ }) := by
  rw [step_guard]
  rcases env.step operation state with ⟨outcome, after⟩
  cases outcome with
  | ok answer => exact .inl rfl
  | error fault =>
    cases hexchange : after.session.exchange with
    | none => exact .inl (by simp only [hexchange])
    | some exchange => exact .inr ⟨fault, _, _, rfl, by simp only [hexchange]; rfl⟩

/-! ### Runs -/

theorem run_append (first rest : List Operation) :
    env.run (first ++ rest) state =
      ((env.run first state).1 ++ (env.run rest (env.run first state).2).1,
        (env.run rest (env.run first state).2).2) := by
  induction first generalizing state with
  | nil => rfl
  | cons operation first ih => simp only [List.cons_append, run, ih]

theorem length_run (operations : List Operation) :
    (env.run operations state).1.length = operations.length := by
  induction operations generalizing state with
  | nil => rfl
  | cons operation operations ih => simp only [run, List.length_cons, ih]

/-- The outcome of an operation is that of one step after what came before, whatever comes next. -/
theorem getElem?_run (before rest : List Operation) (operation : Operation) :
    (env.run (before ++ operation :: rest) state).1[before.length]? =
      some (env.step operation (env.run before state).2).1 := by
  rw [run_append, List.getElem?_append_right (Nat.le_of_eq (length_run before)), length_run,
    Nat.sub_self]
  rfl

end Environment

end ResponseCheck.Session
