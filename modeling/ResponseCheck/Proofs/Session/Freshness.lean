import ResponseCheck.Proofs.Session.Memo
import ResponseCheck.Proofs.Session.Source

/-!
# The recorded exchange is never stale

Over a run, the transport is given exactly the prepared requests, and the exchange that is recorded
comes from the last source alone: a response that was loaded, or the answer to the last request if
there was one. What a reading tells is then a matter of that response, of the policy and of its own
arguments, and nothing that came before shows.
-/

namespace ResponseCheck.Session

variable {σ ε : Type}

/-! ### What a run records -/

/-- What is known of a state after sources in turn, with settings and a policy that stay. -/
structure Records (settings : Settings) (policy : Policy) (sources : List Source)
    (state : State σ ε) : Prop where
  settings : state.session.settings = settings
  policy : state.session.policy = policy
  sent : state.wire.log.map Prod.fst = sources.filterMap Source.request?
  exchange : state.session.exchange = lastExchange sources.getLast? state.wire.log.getLast?

variable {env : Environment σ ε} {settings : Settings} {policy : Policy} {sources rest : List Source}
  {state after : State σ ε}

/-- More sources are recorded behind the others. -/
theorem Records.follows (h : Records settings policy sources state)
    (hfollows : Follows state rest after) : Records settings policy (sources ++ rest) after := by
  obtain ⟨answers, hlog, hsent⟩ := hfollows.sent
  refine ⟨hfollows.settings.trans h.settings, hfollows.policy.trans h.policy, ?_, ?_⟩
  · rw [hlog, List.map_append, h.sent, hsent, List.filterMap_append]
  · rw [hfollows.exchange]
    cases rest with
    | nil =>
      obtain rfl : answers = [] := by simpa using hsent
      rw [if_pos rfl, h.exchange, List.append_nil, hlog, List.append_nil]
    | cons source rest => simp [List.getLast?_cons]

/-- A run adds the sources of its operations in turn. -/
theorem Environment.records_run (env : Environment σ ε) (h : Records settings policy sources state)
    (operations : List Operation) :
    Records settings policy (sources ++ operations.filterMap (·.source? settings))
      (env.run operations state).2 :=
  h.follows (h.settings ▸ follows_run env operations state)

/-! ### What readings tell -/

/-- A failure without dumps of exchanges. -/
def withoutDumps (failure : Failure) : Failure :=
  { failure with frames := failure.frames.filter (!·.isDiagnostics) }

theorem withoutDumps_withFrame (failure : Failure) (dump : String) :
    withoutDumps (failure.withFrame (.diagnostics dump)) = withoutDumps failure := by
  simp [withoutDumps, Failure.withFrame, Failure.Frame.isDiagnostics]

theorem withoutDumps_eq_self {failure : Failure} (h : failure.hasDiagnostics = false) :
    withoutDumps failure = failure := by
  have hframes : failure.frames.filter (!·.isDiagnostics) = failure.frames := by
    simpa [Failure.hasDiagnostics] using h
  rw [withoutDumps, hframes]

/-- A reading under a number of guards. -/
def Operation.guardedRead : Nat → Reading → Operation
  | 0, reading => .read reading
  | guards + 1, reading => .guard (guardedRead guards reading)

/-- What a caller is told of a reading, apart from the dumps of guards. -/
def Outcome.withoutDumps (toFailure : ε → Failure) (outcome : Outcome ε) : Except Failure Answer :=
  outcome.mapError fun fault => Session.withoutDumps (fault.failure toFailure)

namespace Environment

variable {env : Environment σ ε} {state : State σ ε}

/-- Without a response, guards leave the failure of a reading as it is. -/
theorem step_guardedRead_of_no_response (h : state.session.exchange = none) (guards : Nat)
    (reading : Reading) :
    env.step (.guardedRead guards reading) state =
      (((state.session.read reading).map .read).mapError .unmet, state) := by
  induction guards with
  | zero => exact step_read
  | succ guards ih =>
    rw [Operation.guardedRead, step_guard, ih]
    obtain ⟨frames, hread⟩ := read_of_no_response h reading
    simp only [hread, Except.map, Except.mapError_error, h]

/-- Guards leave the session as it is, and add no more than dumps to the failure of a reading. -/
theorem step_guardedRead (guards : Nat) (reading : Reading) :
    (env.step (.guardedRead guards reading) state).2.session = state.session ∧
    (env.step (.guardedRead guards reading) state).1.withoutDumps env.toFailure =
      (state.session.read reading).map .read := by
  induction guards with
  | zero =>
    rw [Operation.guardedRead, step_read]
    refine ⟨rfl, ?_⟩
    cases hread : state.session.read reading with
    | ok value => rfl
    | error failure =>
      exact congrArg _ (withoutDumps_eq_self (hasDiagnostics_of_read_eq_error hread))
  | succ guards ih =>
    rw [Operation.guardedRead]
    rcases env.step_guard_cases (.guardedRead guards reading) state with
      hstep | ⟨fault, dump, world, hfault, hstep⟩
    · rw [hstep]
      exact ih
    · rw [hstep]
      rw [hfault] at ih
      refine ⟨ih.1, Eq.trans ?_ ih.2⟩
      exact congrArg Except.error (withoutDumps_withFrame (fault.failure env.toFailure) dump)

end Environment

/-- **No stale exchange.** Whatever transport and clock do, after any operations the transport has
been given exactly the prepared requests, and the recorded exchange is that of the last source. A
reading that comes next tells what it would tell of a session that was only given the last response,
with or without guards; if there is no response, it fails for want of one. A session that keeps the
decoded body tells the same all along, and keeps that of the last response alone. -/
theorem run_never_stale (env : Environment σ ε) (settings : Settings) (policy : Policy) (world : σ)
    (operations rest : List Operation) (reading : Reading) (guards : Nat) :
    let start : State σ ε := ⟨{ settings, policy }, ⟨world, []⟩⟩
    let last := (env.run operations start).2
    let sources := operations.filterMap (·.source? settings)
    let told (operation : Operation) :=
      (env.run (operations ++ operation :: rest) start).1[operations.length]?
    last.wire.log.map Prod.fst = sources.filterMap Source.request? ∧
    last.session.exchange = lastExchange sources.getLast? last.wire.log.getLast? ∧
    (match last.session.exchange with
    | none => ∃ frames, told (.guardedRead guards reading) =
        some (.error (.unmet ⟨.noResponse, frames⟩))
    | some exchange =>
      let fresh := ({ policy } : Session).load exchange.response
      told (.read reading) = some (((fresh.read reading).map .read).mapError .unmet) ∧
      (told (.guardedRead guards reading)).map (·.withoutDumps env.toFailure) =
        some ((fresh.read reading).map .read)) ∧
    ∃ kept : Memo,
      env.runOnce operations (start, none) = ((env.run operations start).1, last, kept) ∧
      kept.Fits last.session := by
  intro start last sources told
  have hstart : Records settings policy [] start := ⟨rfl, rfl, rfl, rfl⟩
  have hlast : Records settings policy sources last := by
    simpa using env.records_run hstart operations
  refine ⟨hlast.sent, hlast.exchange, ?_, Environment.runOnce_eq Memo.fits_none operations⟩
  have htold (operation : Operation) : told operation = some (env.step operation last).1 :=
    Environment.getElem?_run operations rest operation
  cases hexchange : last.session.exchange with
  | none =>
    obtain ⟨frames, hread⟩ := read_of_no_response hexchange reading
    refine ⟨frames, ?_⟩
    rw [htold, Environment.step_guardedRead_of_no_response hexchange, hread]
    rfl
  | some exchange =>
    have hfresh : last.session.read reading =
        (({ policy } : Session).load exchange.response).read reading :=
      read_eq_of_response hlast.policy (by rw [hexchange]; rfl) reading
    refine ⟨?_, ?_⟩
    · rw [htold, Environment.step_read, hfresh]
    · rw [htold, Option.map_some, (Environment.step_guardedRead guards reading).2, hfresh]

end ResponseCheck.Session
