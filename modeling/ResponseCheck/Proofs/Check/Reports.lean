import Mathlib.Data.List.Forall2
import ResponseCheck.Check
import ResponseCheck.Proofs.Session.Memo

/-!
# What is reported of a session

Plans are checked in turn against one session, which stays as it is: what is reported of a plan
depends on the session and on the index of the plan, but not on the plans around it. Nor does it
depend on whether the session keeps the decoded body from one plan to the next.
-/

namespace ResponseCheck.Check.Plan

variable {m : Type → Type} [Monad m]

/-- What is reported of the plan at an index. The clock is asked only for a dump. -/
def reportOn (clock : m String) (session : Session) (plan : Plan) (index : Nat) :
    m Report.Result :=
  match plan.run session, session.exchange with
  | .ok _, _ => return plan.result index (.ok ())
  | .error failure, none => return plan.result index (.error (.unobserved failure))
  | .error failure, some exchange => do
    let failure := failure.withFrame (.diagnostics (exchange.dump (← clock)))
    return plan.result index (.error (.observed failure))

variable [LawfulMonad m] {clock : m String} {session : Session}

/-- Of a plan that is not met, the clock is asked for a dump if there is an exchange to show. -/
theorem passed_reportOn (plan : Plan) (index : Nat) :
    (·.passed) <$> plan.reportOn clock session index =
      match plan.run session, session.exchange with
      | .ok _, _ => pure true
      | .error _, none => pure false
      | .error _, some _ => (fun _ => false) <$> clock := by
  rw [reportOn]
  cases plan.run session <;> cases session.exchange <;> simp [result, Except.toOption]

theorem run_report (plan : Plan) (index : Nat) :
    (plan.report clock index).run session = (·, session) <$> plan.reportOn clock session index := by
  simp only [report, StateT.run_bind, Session.run_guard, StateT.run_get, pure_bind, bind_assoc]
  rw [reportOn]
  cases hrun : plan.run session with
  | ok => simp
  | error failure =>
    cases hexchange : session.exchange <;> simp [hexchange]

theorem run_reports (plans : List Plan) (index : Nat) :
    (reports clock index plans).run session =
      (·, session) <$> (plans.zipIdx index).mapM fun (plan, i) =>
        plan.reportOn clock session i := by
  induction plans generalizing index with
  | nil => simp [reports]
  | cons plan plans ih => simp [reports, run_report, ih]

/-! ### With the wire in view -/

/-- What is reported of the plan at an index, if a dump shows a time. -/
def resultAt (session : Session) (plan : Plan) (index : Nat) (time : String) : Report.Result :=
  plan.result index <|
    match plan.run session, session.exchange with
    | .ok _, _ => .ok ()
    | .error failure, none => .error (.unobserved failure)
    | .error failure, some exchange =>
      .error (.observed (failure.withFrame (.diagnostics (exchange.dump time))))

variable {σ ε : Type} (env : Session.Environment σ ε) (session : Session)

theorem run_reportOn_tapped (plan : Plan) (index : Nat) (wire : Session.Wire σ ε) :
    ∃ time world, (plan.reportOn env.tapped.clock session index).run wire =
      (plan.resultAt session index time, { wire with world }) := by
  unfold reportOn resultAt
  cases plan.run session with
  | ok => exact ⟨"", wire.world, rfl⟩
  | error failure =>
    cases session.exchange with
    | none => exact ⟨"", wire.world, rfl⟩
    | some exchange => exact ⟨(env.clock wire.world).1, (env.clock wire.world).2, rfl⟩

/-- Nothing is sent for reports, and each is about its own plan, at whatever time. -/
theorem run_reports_tapped (plans : List Plan) (index : Nat) (wire : Session.Wire σ ε) :
    ∃ results world,
      ((reports env.tapped.clock index plans).run session).run wire =
        ((results, session), { wire with world }) ∧
      List.Forall₂
        (fun indexed result => ∃ time, result = indexed.1.resultAt session indexed.2 time)
        (plans.zipIdx index) results := by
  induction plans generalizing index wire with
  | nil => exact ⟨[], wire.world, rfl, .nil⟩
  | cons plan plans ih =>
    obtain ⟨time, middle, hplan⟩ := run_reportOn_tapped env session plan index wire
    obtain ⟨results, world, hplans, hresults⟩ := ih (index + 1) { wire with world := middle }
    refine ⟨plan.resultAt session index time :: results, world, ?_, .cons ⟨time, rfl⟩ hresults⟩
    simp only [reports, StateT.run_bind, run_report, StateT.run_map, hplan]
    exact congrArg (Prod.map (Prod.map (plan.resultAt session index time :: ·) id) id) hplans

/-! ### With a body that is kept -/

/-- What a plan asks of a session. -/
def reading : Plan → Session.Reading
  | .body predicate expectation => .body predicate expectation
  | .header predicate expectation => .header predicate expectation
  | .status expected => .status expected

theorem read_reading (plan : Plan) :
    session.read plan.reading = (plan.run session).map fun _ => none := by
  cases plan <;> rfl

/-- The operation that checks a plan. -/
def operation (plan : Plan) : Session.Operation := .guard (.read plan.reading)

/-- What is reported of the plan at an index, from what the session told. -/
def resultOf (toFailure : ε → Failure) (plan : Plan) (index : Nat) (told : Session.Outcome ε) :
    Report.Result :=
  plan.result index <| (told.map fun _ => ()).mapError fun fault =>
    .unobserved (fault.failure toFailure)

theorem run_report_tapped (plan : Plan) (index : Nat) (wire : Session.Wire σ ε) :
    ((plan.report env.tapped.clock index).run session).run wire =
      let told := env.step plan.operation ⟨session, wire⟩
      ((plan.resultOf env.toFailure index told.1, told.2.session), told.2.wire) := by
  rw [run_report, operation, Session.Environment.step_guard, Session.Environment.step_read,
    read_reading]
  unfold reportOn
  obtain ⟨settings, policy, exchange⟩ := session
  cases plan.run ⟨settings, policy, exchange⟩ with
  | ok => rfl
  | error failure => cases exchange <;> rfl

/-- Reports on plans are what the session tells when it is asked for each of them in turn. -/
theorem run_reports_eq (plans : List Plan) (index : Nat) (wire : Session.Wire σ ε) :
    ((reports env.tapped.clock index plans).run session).run wire =
      let told := env.run (plans.map operation) ⟨session, wire⟩
      ((List.zipWith (fun indexed outcome =>
          indexed.1.resultOf env.toFailure indexed.2 outcome) (plans.zipIdx index) told.1,
        told.2.session), told.2.wire) := by
  induction plans generalizing index session wire with
  | nil => rfl
  | cons plan plans ih =>
    rw [reports, StateT.run_bind, StateT.run_bind, run_report_tapped]
    rcases hstep : env.step plan.operation ⟨session, wire⟩ with ⟨outcome, after⟩
    simp only [List.map_cons, List.zipIdx_cons, Session.Environment.run, hstep]
    exact congrArg (Prod.map (Prod.map (plan.resultOf env.toFailure index outcome :: ·) id) id)
      (ih after.session (index + 1) after.wire)

/-- What is reported of plans from an index on if the session keeps the decoded body. -/
def toldOnce (index : Nat) (plans : List Plan) (wire : Session.Wire σ ε) : List Report.Result :=
  List.zipWith (fun indexed outcome => indexed.1.resultOf env.toFailure indexed.2 outcome)
    (plans.zipIdx index) (env.runOnce (plans.map operation) (⟨session, wire⟩, none)).1

/-- A session that keeps the decoded body reports the same. -/
theorem results_eq_toldOnce (plans : List Plan) (index : Nat) (wire : Session.Wire σ ε) :
    (((reports env.tapped.clock index plans).run session).run wire).1.1 =
      toldOnce env session index plans wire := by
  let start : Session.State σ ε := ⟨session, wire⟩
  have hfits : Session.Memo.Fits start.session none := Session.Memo.fits_none
  obtain ⟨kept, honce, -⟩ := Session.Environment.runOnce_eq hfits (plans.map operation)
  rw [run_reports_eq, toldOnce, honce]

end ResponseCheck.Check.Plan
