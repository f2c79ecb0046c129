import ResponseCheck.Proofs.Failure
import ResponseCheck.Proofs.Session.Source

/-!
# What a guard shows

A guard runs an action, which may send requests, load responses and read the last one as often as it
likes, and decide what to do next by what it was told. The guard is not noticed by the session, and
not by a caller whose action succeeds. Where the action fails, it looks at the exchange that is
there at the end: that of the last request or load, which may have replaced or dropped others on the
way.
-/

namespace ResponseCheck.Session

variable {σ ε E α β : Type}

/-- Carries out a computation from a state. -/
def State.run (state : State σ ε) (computation : StateT Session (StateM (Wire σ ε)) β) :
    β × State σ ε :=
  let ((result, session), wire) := (computation.run state.session).run state.wire
  (result, ⟨session, wire⟩)

theorem State.run_bind (state : State σ ε) (first : StateT Session (StateM (Wire σ ε)) α)
    (next : α → StateT Session (StateM (Wire σ ε)) β) :
    state.run (first >>= next) = (state.run first).2.run (next (state.run first).1) := rfl

theorem State.run_guard (env : Environment σ ε) (toFailure : E → Failure) (state : State σ ε)
    (action : StateT Session (StateM (Wire σ ε)) (Except E α)) :
    state.run (guard env.tapped.clock toFailure action) =
      match state.run action with
      | (.ok result, after) => (.ok result, after)
      | (.error error, after) =>
        match after.session.exchange with
        | none => (.error (.unobserved error), after)
        | some exchange =>
          let asked := env.clock after.wire.world
          let failure := (toFailure error).withFrame (.diagnostics (exchange.dump asked.1))
          (.error (.observed failure),
            { after with wire := { after.wire with world := asked.2 } }) := by
  rw [guard, run_bind]
  rcases state.run action with ⟨outcome, ⟨⟨settings, policy, exchange⟩, wire⟩⟩
  cases outcome with
  | ok result => rfl
  | error error => cases exchange <;> rfl

/-- What is done with a session: operations in turn, each of which may depend on what was told of
those before it, and a result. -/
inductive Action (ε E α : Type) where
  | finish (result : Except E α)
  | perform (operation : Operation) (next : Outcome ε → Action ε E α)

namespace Action

/-- Carries out an action. -/
def run (env : Environment σ ε) : Action ε E α → StateT Session (StateM σ) (Except E α)
  | .finish result => return result
  | .perform operation next => do (next (← Session.perform env operation)).run env

/-- The operations that an action carries out from a state. -/
def operations (env : Environment σ ε) : Action ε E α → State σ ε → List Operation
  | .finish _, _ => []
  | .perform operation next, state =>
    let (outcome, after) := env.step operation state
    operation :: (next outcome).operations env after

end Action

end ResponseCheck.Session
