import Mathlib.Data.List.Basic
import ResponseCheck.Proofs.Except
import ResponseCheck.Session

/-!
# What one action does to a session

Sending a request replaces the exchange, or drops it when no response comes. A guard changes nothing
but the failure of its action. Readings do not change the session, and they see of it no more than
the policy and the last response.
-/

namespace ResponseCheck

/-- A mismatch makes a failure that shows arguments and at most one value. -/
theorem Expectation.hasDiagnostics_of_check_eq_error {expectation : Expectation}
    {predicate : Predicate} {policy : Policy} {data : Json} {failure : Failure}
    (h : expectation.check predicate policy data = .error failure) :
    failure.hasDiagnostics = false := by
  obtain ⟨mismatch, -, rfl⟩ := Except.mapError_eq_error_iff.mp h
  cases helement : mismatch.element? <;>
    simp [Expectation.failure, Failure.hasDiagnostics, Failure.Frame.isDiagnostics, helement]

namespace Session

section Effects

variable {m : Type → Type} [Monad m] [LawfulMonad m] {ε α : Type}

theorem run_request (transport : Transport m ε) (method : Http.Method) (url : String)
    (options : Http.RequestOptions) (session : Session) :
    (request transport method url options).run session = (do
      match ← transport (session.settings.prepare method url options) with
      | .error error => return (.error error, { session with exchange := none })
      | .ok response =>
        return (.ok response, { session with
          exchange := some ⟨some (session.settings.prepare method url options), response⟩ })) := by
  simp only [request, StateT.run_bind, StateT.run_get, pure_bind, StateT.run_modify,
    StateT.run_monadLift, bind_assoc, monadLift_self]
  refine bind_congr fun answer => ?_
  cases answer <;> simp

theorem run_guard (clock : m String) (toFailure : ε → Failure)
    (action : StateT Session m (Except ε α)) (session : Session) :
    (guard clock toFailure action).run session = (do
      match ← action.run session with
      | (.ok result, after) => return (.ok result, after)
      | (.error error, after) =>
        match after.exchange with
        | none => return (.error (.unobserved error), after)
        | some exchange =>
          let failure := (toFailure error).withFrame (.diagnostics (exchange.dump (← clock)))
          return (.error (.observed failure), after)) := by
  simp only [guard, StateT.run_bind]
  refine bind_congr fun result => ?_
  obtain ⟨outcome, after⟩ := result
  cases outcome with
  | ok result => rfl
  | error error =>
    simp only [StateT.run_bind, StateT.run_get, pure_bind]
    cases after.exchange <;> simp

end Effects

/-! ### Readings -/

/-- What a session is asked about the last response. -/
inductive Reading where
  | json
  | body (predicate : Predicate) (expectation : Expectation)
  | header (predicate : Predicate) (expectation : Expectation)
  | status (expected : Http.Status)

/-- Reads the last response. Only the body is a result; an expectation is met or not. -/
def read (session : Session) : Reading → Except Failure (Option Json)
  | .json => session.json.map some
  | .body predicate expectation => (session.expectJson predicate expectation).map fun _ => none
  | .header predicate expectation => (session.expectHeader predicate expectation).map fun _ => none
  | .status expected => (session.expectStatus expected).map fun _ => none

variable {session other : Session}

/-- Readings see of a session no more than the policy and the last response. -/
theorem read_eq_of_response (hpolicy : session.policy = other.policy)
    (hresponse : session.exchange.map (·.response) = other.exchange.map (·.response))
    (reading : Reading) : session.read reading = other.read reading := by
  have hlast : session.response = other.response := by
    unfold response
    cases hsession : session.exchange <;> cases hother : other.exchange <;> simp_all
  cases reading <;> simp only [read, json, expectJson, expectHeader, expectStatus, hlast, hpolicy]

/-- Without a response, every reading fails for want of one. -/
theorem read_of_no_response (h : session.exchange = none) (reading : Reading) :
    ∃ frames, session.read reading = .error ⟨.noResponse, frames⟩ := by
  have hlast : session.response = .error ⟨.noResponse, []⟩ := by rw [response, h]
  cases reading with
  | json => exact ⟨[], by rw [read, json, hlast]; rfl⟩
  | body predicate expectation =>
    exact ⟨[.arguments expectation.toJson], by rw [read, expectJson, json, hlast]; rfl⟩
  | header predicate expectation => exact ⟨[], by rw [read, expectHeader, hlast]; rfl⟩
  | status expected => exact ⟨[], by rw [read, expectStatus, hlast]; rfl⟩

theorem frames_of_response_eq_error {failure : Failure} (h : session.response = .error failure) :
    failure.frames = [] := by
  unfold response at h
  split at h <;> cases h
  rfl

theorem frames_of_json_eq_error {failure : Failure} (h : session.json = .error failure) :
    failure.frames = [] := by
  rcases Except.bind_eq_error_iff.mp h with hresponse | ⟨response, -, hjson⟩
  · exact frames_of_response_eq_error hresponse
  · obtain ⟨error, -, rfl⟩ := Except.mapError_eq_error_iff.mp hjson
    rfl

/-- The failure of a reading shows no exchange: only guards add dumps. -/
theorem hasDiagnostics_of_read_eq_error {reading : Reading} {failure : Failure}
    (h : session.read reading = .error failure) : failure.hasDiagnostics = false := by
  cases reading with
  | json =>
    rw [Failure.hasDiagnostics, frames_of_json_eq_error (Except.map_eq_error_iff.mp h)]
    rfl
  | body predicate expectation =>
    rcases Except.bind_eq_error_iff.mp (Except.map_eq_error_iff.mp h) with hjson | ⟨body, -, hbody⟩
    · obtain ⟨undecoded, hundecoded, rfl⟩ := Except.mapError_eq_error_iff.mp hjson
      rw [Failure.hasDiagnostics, Failure.withFrame, frames_of_json_eq_error hundecoded]
      rfl
    · exact Expectation.hasDiagnostics_of_check_eq_error hbody
  | header predicate expectation =>
    rcases Except.bind_eq_error_iff.mp (Except.map_eq_error_iff.mp h) with
      hresponse | ⟨response, -, hheader⟩
    · rw [Failure.hasDiagnostics, frames_of_response_eq_error hresponse]
      rfl
    · exact Expectation.hasDiagnostics_of_check_eq_error hheader
  | status expected =>
    rcases Except.bind_eq_error_iff.mp (Except.map_eq_error_iff.mp h) with
      hresponse | ⟨response, -, hstatus⟩
    · rw [Failure.hasDiagnostics, frames_of_response_eq_error hresponse]
      rfl
    · dsimp only at hstatus
      split at hstatus <;> cases hstatus
      rfl

end Session

end ResponseCheck
