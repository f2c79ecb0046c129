import ResponseCheck.Proofs.Session.Run

/-!
# Sessions that decode a body once

A body that was decoded may be kept with its response, so that later readings and dumps do not
decode it again. Requests and loads drop what is kept together with the exchange. What is kept is
then the body of the last response at all times, and a session that keeps it tells the same as one
that decodes it whenever it is asked for.
-/

namespace ResponseCheck

/-- An answer that is a head alone is shown without a body. -/
theorem Exchange.dumpOf_eq_of_isHead {exchange : Exchange} (h : exchange.isHead)
    (json json' : Except Http.DecodeError Json) (stamp : String) :
    exchange.dumpOf json stamp = exchange.dumpOf json' stamp := by
  rw [dumpOf, dumpOf, responseText, responseText, if_pos h, if_pos h]

namespace Session

/-- The body of the last response. -/
def jsonOnce (session : Session) : StateM Memo (Except Failure Json) :=
  match session.response with
  | .ok response => return (← decodeOnce response).mapError (⟨.undecodable ·, []⟩)
  | .error failure => return .error failure

/-- Reads the last response, with its body decoded at most once. -/
def readOnce (session : Session) : Reading → StateM Memo (Except Failure (Option Json))
  | .json => return (← session.jsonOnce).map some
  | .body predicate expectation => do
    let body := (← session.jsonOnce).mapError (·.withFrame (.arguments expectation.toJson))
    return (body.bind (expectation.check predicate session.policy)).map fun _ => none
  | .header predicate expectation => return session.read (.header predicate expectation)
  | .status expected => return session.read (.status expected)

/-- Shows an exchange, with its body decoded at most once. -/
def dumpOnce (exchange : Exchange) (stamp : String) : StateM Memo String :=
  -- The body of an answer that is a head alone is not asked for.
  if exchange.isHead then return exchange.dumpOf (.ok .null) stamp
  else return exchange.dumpOf (← decodeOnce exchange.response) stamp

/-- What is kept, if anything, is the body of the last response. -/
def Memo.Fits (session : Session) (memo : Memo) : Prop :=
  ∀ body ∈ memo, ∃ exchange ∈ session.exchange, exchange.response.json = body

theorem Memo.fits_none {session : Session} : Memo.Fits session none := nofun

theorem Memo.fits_some {session : Session} {exchange : Exchange}
    (h : session.exchange = some exchange) :
    Memo.Fits session (some exchange.response.json) := by
  intro body hbody
  exact ⟨exchange, h, Option.some.inj hbody⟩

section Once

variable {session : Session} {exchange : Exchange} {memo : Memo}

theorem decodeOnce_eq (h : session.exchange = some exchange) (hfits : memo.Fits session) :
    (decodeOnce exchange.response).run memo =
      (exchange.response.json, some exchange.response.json) := by
  cases memo with
  | none => rfl
  | some body =>
    obtain ⟨other, hother, rfl⟩ := hfits body rfl
    obtain rfl : other = exchange := Option.some.inj (hother.symm.trans h)
    rfl

theorem jsonOnce_eq (hfits : memo.Fits session) :
    ∃ kept : Memo, session.jsonOnce.run memo = (session.json, kept) ∧ kept.Fits session := by
  cases hexchange : session.exchange with
  | none =>
    have hresponse : session.response = .error ⟨.noResponse, []⟩ := by rw [response, hexchange]
    refine ⟨memo, ?_, hfits⟩
    rw [jsonOnce, json, hresponse]
    rfl
  | some exchange =>
    have hresponse : session.response = .ok exchange.response := by rw [response, hexchange]
    refine ⟨some exchange.response.json, ?_, Memo.fits_some hexchange⟩
    rw [jsonOnce, json, hresponse]
    simp only [StateT.run_bind, decodeOnce_eq hexchange hfits]
    rfl

theorem readOnce_eq (hfits : memo.Fits session) (reading : Reading) :
    ∃ kept : Memo, (session.readOnce reading).run memo = (session.read reading, kept) ∧
      kept.Fits session := by
  obtain ⟨kept, hjson, hkept⟩ := jsonOnce_eq hfits
  cases reading with
  | json =>
    refine ⟨kept, ?_, hkept⟩
    simp only [readOnce, StateT.run_bind, hjson]
    rfl
  | body predicate expectation =>
    refine ⟨kept, ?_, hkept⟩
    simp only [readOnce, StateT.run_bind, hjson]
    rfl
  | header predicate expectation => exact ⟨memo, rfl, hfits⟩
  | status expected => exact ⟨memo, rfl, hfits⟩

theorem dumpOnce_eq (h : session.exchange = some exchange) (hfits : memo.Fits session)
    (stamp : String) :
    ∃ kept : Memo, (dumpOnce exchange stamp).run memo = (exchange.dump stamp, kept) ∧
      kept.Fits session := by
  cases hhead : exchange.isHead with
  | true =>
    refine ⟨memo, ?_, hfits⟩
    rw [dumpOnce, if_pos hhead, Exchange.dump,
      Exchange.dumpOf_eq_of_isHead hhead (.ok .null) exchange.response.json]
    rfl
  | false =>
    refine ⟨some exchange.response.json, ?_, Memo.fits_some h⟩
    simp only [dumpOnce, hhead, Bool.false_eq_true, if_false, StateT.run_bind,
      decodeOnce_eq h hfits]
    rfl

end Once

namespace Environment

variable {σ ε : Type} (env : Environment σ ε)

/-- Carries out one operation of a session that keeps the decoded body. -/
def stepOnce : Operation → State σ ε × Memo → Outcome ε × State σ ε × Memo
  | .request method url options, (state, _) =>
    let (outcome, after) := env.step (.request method url options) state
    (outcome, after, none)
  | .load response, (state, _) =>
    let (outcome, after) := env.step (.load response) state
    (outcome, after, none)
  | .read reading, (state, memo) =>
    let (told, kept) := (state.session.readOnce reading).run memo
    ((told.map .read).mapError .unmet, state, kept)
  | .guard operation, before =>
    match stepOnce operation before with
    | (.ok answer, after) => (.ok answer, after)
    | (.error fault, after, memo) =>
      match after.session.exchange with
      | none => (.error fault, after, memo)
      | some exchange =>
        let (stamp, world) := env.clock after.wire.world
        let (dump, kept) := (dumpOnce exchange stamp).run memo
        let failure := (fault.failure env.toFailure).withFrame (.diagnostics dump)
        (.error (.shown failure), { after with wire := { after.wire with world } }, kept)

/-- Carries out operations in turn, of a session that keeps the decoded body. -/
def runOnce : List Operation → State σ ε × Memo → List (Outcome ε) × State σ ε × Memo
  | [], state => ([], state)
  | operation :: operations, state =>
    let (outcome, after) := env.stepOnce operation state
    let (outcomes, last) := runOnce operations after
    (outcome :: outcomes, last)

variable {env} {state : State σ ε} {memo : Memo}

theorem stepOnce_eq (hfits : memo.Fits state.session) (operation : Operation) :
    ∃ kept : Memo,
      env.stepOnce operation (state, memo) =
        ((env.step operation state).1, (env.step operation state).2, kept) ∧
      kept.Fits (env.step operation state).2.session := by
  induction operation with
  | request method url options => exact ⟨none, rfl, Memo.fits_none⟩
  | load response => exact ⟨none, rfl, Memo.fits_none⟩
  | read reading =>
    obtain ⟨kept, hread, hkept⟩ := readOnce_eq hfits reading
    refine ⟨kept, ?_, hkept⟩
    rw [stepOnce, hread, step_read]
  | guard operation ih =>
    obtain ⟨kept, honce, hkept⟩ := ih
    rw [stepOnce, honce, step_guard]
    rcases hstep : env.step operation state with ⟨outcome, after⟩
    rw [hstep] at hkept
    cases outcome with
    | ok answer => exact ⟨kept, rfl, hkept⟩
    | error fault =>
      cases hexchange : after.session.exchange with
      | none => exact ⟨kept, by simp only [hexchange], by simpa only [hexchange] using hkept⟩
      | some exchange =>
        rcases hclock : env.clock after.wire.world with ⟨stamp, world⟩
        obtain ⟨shown, hdump, hshown⟩ := dumpOnce_eq hexchange hkept stamp
        refine ⟨shown, ?_, ?_⟩
        · simp only [hexchange, hclock, hdump]
        · simpa only [hexchange, hclock] using hshown

/-- Whether the decoded body is kept makes no difference to what a run tells, and what is kept is
the body of the last response at the end of every run. -/
theorem runOnce_eq (hfits : memo.Fits state.session) (operations : List Operation) :
    ∃ kept : Memo,
      env.runOnce operations (state, memo) =
        ((env.run operations state).1, (env.run operations state).2, kept) ∧
      kept.Fits (env.run operations state).2.session := by
  induction operations generalizing state memo with
  | nil => exact ⟨memo, rfl, hfits⟩
  | cons operation operations ih =>
    obtain ⟨kept, hstep, hkept⟩ := stepOnce_eq hfits operation
    obtain ⟨last, hrun, hlast⟩ := ih hkept
    refine ⟨last, ?_, hlast⟩
    simp only [runOnce, run, hstep, hrun]

end Environment

end Session

end ResponseCheck
