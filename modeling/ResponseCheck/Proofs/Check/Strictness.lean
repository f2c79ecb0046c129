import ResponseCheck.Proofs.Check.Reports
import ResponseCheck.Proofs.Resolution.Collapse
import ResponseCheck.Proofs.Resolution.Satisfaction

/-!
# Strict checks

A strict check tells of every failing element, and for the rest it is like any other: the files that
are read, the request that is sent, the expectations that are met and the exit code are the same.
-/

namespace ResponseCheck

/-- The session with another policy. -/
def Session.withPolicy (policy : Policy) (session : Session) : Session := { session with policy }

@[simp] theorem Session.withPolicy_exchange (policy : Policy) (session : Session) :
    (session.withPolicy policy).exchange = session.exchange := rfl

section Policies

variable {p q : Policy}

theorem Path.resolve_eq_ok_iff_policy {path : Path} {check : Json → Verdict} {value : Json} :
    path.resolve p check value = .ok () ↔ path.resolve q check value = .ok () :=
  verdictFrom_eq_ok_iff.trans verdictFrom_eq_ok_iff.symm

theorem Expectation.check_eq_ok_iff {expectation : Expectation} {predicate : Predicate}
    {data : Json} :
    expectation.check predicate p data = .ok () ↔ expectation.check predicate q data = .ok () := by
  rw [check, check, Except.mapError_eq_ok_iff, Except.mapError_eq_ok_iff, verdict, verdict]
  cases expectation.path with
  | none => rfl
  | some raw =>
    dsimp only
    cases Path.parse expectation.optional raw with
    | error mismatch => rfl
    | ok path => exact Path.resolve_eq_ok_iff_policy

namespace Check

/-- Whether a plan is met does not depend on the policy. -/
theorem Plan.run_eq_ok_iff (plan : Plan) (session : Session) :
    plan.run (session.withPolicy p) = .ok () ↔ plan.run (session.withPolicy q) = .ok () := by
  cases plan with
  | body predicate expectation =>
    change (session.json.mapError _ >>= _) = _ ↔ (session.json.mapError _ >>= _) = _
    cases session.json with
    | error failure => rfl
    | ok body => exact Expectation.check_eq_ok_iff
  | header predicate expectation =>
    change (session.response >>= _) = _ ↔ (session.response >>= _) = _
    cases session.response with
    | error failure => rfl
    | ok response => exact Expectation.check_eq_ok_iff
  | status expected => rfl

variable {m : Type → Type} [Monad m] [LawfulMonad m] {ε : Type}

/-- Under either policy, a plan is reported as met or not, and the clock asked, in the same way. -/
theorem Plan.passed_reportOn_withPolicy (plan : Plan) (clock : m String) (session : Session)
    (index : Nat) :
    (·.passed) <$> plan.reportOn clock (session.withPolicy p) index =
      (·.passed) <$> plan.reportOn clock (session.withPolicy q) index := by
  have hiff := plan.run_eq_ok_iff (p := p) (q := q) session
  rw [passed_reportOn, passed_reportOn, Session.withPolicy_exchange, Session.withPolicy_exchange]
  cases hp : plan.run (session.withPolicy p) with
  | ok => rw [hiff.mp hp]
  | error failure =>
    cases hq : plan.run (session.withPolicy q) with
    | ok => simp [hp, hq] at hiff
    | error => cases session.exchange <;> rfl

theorem Plan.passed_reports_withPolicy (plans : List Plan) (clock : m String) (session : Session)
    (index : Nat) :
    (fun reported => reported.1.map (·.passed)) <$>
        (Plan.reports clock index plans).run (session.withPolicy p) =
      (fun reported => reported.1.map (·.passed)) <$>
        (Plan.reports clock index plans).run (session.withPolicy q) := by
  rw [run_reports, run_reports, Functor.map_map, Functor.map_map]
  exact map_mapM_congr fun indexed _ =>
    indexed.1.passed_reportOn_withPolicy clock session indexed.2

end Check

end Policies

/-! ### The run of a check -/

variable {m : Type → Type} [Monad m] [LawfulMonad m] {ε : Type}

/-- The policy has no say in what is sent, and stays as it is. -/
theorem Session.run_request_withPolicy (transport : Transport m ε) (method : Http.Method)
    (url : String) (options : Http.RequestOptions) (policy : Policy) (session : Session) :
    (request transport method url options).run (session.withPolicy policy) =
      (fun sent => (sent.1, sent.2.withPolicy policy)) <$>
        (request transport method url options).run session := by
  rw [run_request, run_request, map_bind]
  refine bind_congr fun answer => ?_
  cases answer <;> simp <;> rfl

namespace Check

theorem map_throw {α β : Type} (f : α → β) (error : ε) :
    f <$> (throw error : ExceptT ε m α) = throw error :=
  ExceptT.ext (by simp)

/-- The policy has no say in how a response is got, and stays as it is. -/
theorem Surroundings.respond_withPolicy (around : Surroundings m ε) (arguments : Arguments)
    (request : Option RequestRule) (policy : Policy) (session : Session) :
    around.respond arguments request (session.withPolicy policy) =
      Session.withPolicy policy <$> around.respond arguments request session := by
  unfold respond
  cases arguments.response with
  | some path =>
    simp only [map_bind, map_pure]
    rfl
  | none =>
    cases request with
    | none => exact (map_throw _ _).symm
    | some rule =>
      simp only [Session.run_request_withPolicy, map_bind, liftM_map, bind_map_left]
      refine bind_congr fun sent => ?_
      obtain ⟨answer, after⟩ := sent
      cases answer with
      | ok response => exact (map_pure ..).symm
      | error error => exact (map_throw _ _).symm

/-- Which expectations are met; none if the check was not run. -/
def Outcome.passed : Outcome → List Bool
  | .ok report => report.results.map (·.passed)
  | .error _ => []

/-- The verdicts of an outcome: its exit code, and which expectations are met. -/
def Outcome.verdicts (outcome : Outcome) : Nat × List Bool := (outcome.exitCode, outcome.passed)

/-- The verdicts of a check that was run, from the flags of its results. -/
def verdictsOf (passed : List Bool) : Nat × List Bool := (if passed.all id then 0 else 2, passed)

theorem verdicts_ofResults (results : List Report.Result) :
    Outcome.verdicts (.ok (.ofResults results)) = verdictsOf (results.map (·.passed)) := by
  simp [Outcome.verdicts, Outcome.exitCode, Outcome.passed, Report.ofResults, verdictsOf]

/-- Steps that agree on verdicts after the same start agree on verdicts. -/
theorem verdicts_bind_congr {α : Type} (start : ExceptT Error m α)
    {next next' : α → ExceptT Error m Report}
    (h : ∀ a, Outcome.verdicts <$> (next a).run = Outcome.verdicts <$> (next' a).run) :
    Outcome.verdicts <$> (start >>= next).run = Outcome.verdicts <$> (start >>= next').run := by
  rw [ExceptT.run_bind, ExceptT.run_bind, map_bind, map_bind]
  refine bind_congr fun result => ?_
  cases result with
  | ok a => exact h a
  | error error => rfl

/-- The last steps of a check: getting the response, and checking plans against it. -/
theorem verdicts_reports_withPolicy (around : Surroundings m ε) (arguments : Arguments)
    (request : Option RequestRule) (plans : List Plan) (session : Session) (policy : Policy) :
    Outcome.verdicts <$> (do
        let session ← around.respond arguments request (session.withPolicy policy)
        let (results, _) ← (Plan.reports around.clock 0 plans).run session
        return Report.ofResults results : ExceptT Error m Report).run =
      Outcome.verdicts <$> (do
        let session ← around.respond arguments request session
        let (results, _) ← (Plan.reports around.clock 0 plans).run (session.withPolicy .mostRecent)
        return Report.ofResults results : ExceptT Error m Report).run := by
  rw [Surroundings.respond_withPolicy, bind_map_left]
  refine verdicts_bind_congr _ fun session => ?_
  have hverdicts (policy : Policy) :
      Outcome.verdicts <$> (do
          let (results, _) ← (Plan.reports around.clock 0 plans).run (session.withPolicy policy)
          return Report.ofResults results : ExceptT Error m Report).run =
        verdictsOf <$> (fun reported => reported.1.map (·.passed)) <$>
          (Plan.reports around.clock 0 plans).run (session.withPolicy policy) := by
    simp [Except.map, verdicts_ofResults]
  rw [hverdicts, hverdicts, Plan.passed_reports_withPolicy]

/-- With the same files, transport and clock, a strict check has the verdicts of one that is not. -/
theorem verdicts_run_strict (around : Surroundings m ε) (arguments : Arguments) :
    Outcome.verdicts <$> run around { arguments with strict := true } =
      Outcome.verdicts <$> run around { arguments with strict := false } := by
  refine verdicts_bind_congr _ fun settings => ?_
  refine verdicts_bind_congr _ fun rules => ?_
  refine verdicts_bind_congr _ fun plans => ?_
  have hrest := verdicts_reports_withPolicy around arguments rules.request plans { settings }
  exact (hrest .collectAll).trans (hrest .mostRecent).symm

/-- **Strictness changes reports alone.** For a check that raises no mismatch of a path, keeping the
last failures gives the collapse of what keeping them all gives, so that the same values pass and
the same value is pointed at; under either policy, lists of failures have members. A whole check
gives the same verdicts with and without strictness, whatever its surroundings do. -/
theorem strict_changes_reports_alone (path : Path) {check : Json → Verdict}
    (hcheck : Rejecting check) (value : Json) (around : Surroundings m ε) (arguments : Arguments) :
    (path.resolve .mostRecent check value = .ok () ↔
      path.resolve .collectAll check value = .ok ()) ∧
    (∀ mismatch, path.resolve .collectAll check value = .error mismatch →
      path.resolve .mostRecent check value = .error mismatch.collapse ∧
      mismatch.collapse.element? = mismatch.element?) ∧
    (∀ policy mismatch, path.resolve policy check value = .error mismatch → mismatch.Listed) ∧
    Outcome.verdicts <$> run around { arguments with strict := true } =
      Outcome.verdicts <$> run around { arguments with strict := false } := by
  refine ⟨Path.resolve_eq_ok_iff_policy, fun mismatch h => ⟨?_, mismatch.element?_collapse⟩,
    fun policy mismatch h => listed_of_verdictFrom_eq_error hcheck h,
    verdicts_run_strict around arguments⟩
  rw [Path.resolve_eq_verdictFrom] at h ⊢
  rw [verdictFrom_mostRecent hcheck, h]
  rfl

/-- Zero is expected of every element of every element. Strictly, three failures in two elements are
told of; else the last one in the last element. -/
theorem strict_changes_reports_alone_of_zeros :
    let path : Path := ⟨[.wildcard .all, .wildcard .all], false⟩
    let isZero := Predicate.check .value (.int 0)
    let value : Json := .arr [.arr [.int 1, .int 0], .arr [.int 0], .arr [.int 2, .int 3]]
    let differs (n : Int) : Mismatch := .rejected ⟨.differs (.int 0), [], .int n⟩
    let told : Mismatch := .allFailures "*.*" 3
      [.allFailures "*" 2 [differs 1], .allFailures "*" 2 [differs 2, differs 3]]
    let around : Surroundings Id String := ⟨fun _ => .regular [], fun _ => .error "", id, ""⟩
    Rejecting isZero ∧ LawfulMonad Id ∧ path.resolve .collectAll isZero value = .error told ∧
      told.collapse = .allFailed "*.*" 3 2 (.allFailed "*" 2 2 (differs 3)) ∧
      path.resolve .mostRecent isZero value = .error told.collapse ∧
      told.collapse.element? = some (.int 3) ∧ told.Listed ∧
      Outcome.verdicts (run around { rules := "rules.json", strict := true }) =
        Outcome.verdicts (run around { rules := "rules.json", strict := false }) := by
  intro path isZero value differs told around
  obtain ⟨-, hcollapse, hlisted, hverdicts⟩ :=
    strict_changes_reports_alone path (Predicate.rejecting_check .value (.int 0)) value around
      { rules := "rules.json" }
  have htold : path.resolve .collectAll isZero value = .error told := rfl
  obtain ⟨hlast, helement⟩ := hcollapse told htold
  exact ⟨Predicate.rejecting_check .value (.int 0), inferInstance, htold, rfl, hlast,
    helement.trans rfl, hlisted .collectAll told htold, hverdicts⟩

end Check

end ResponseCheck
