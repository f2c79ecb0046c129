import ResponseCheck.Proofs.Check.Account
import ResponseCheck.Proofs.Session.Arguments

/-!
# The arguments in a report

A report has the arguments of an expectation as they were given, and the message of one that is not
met shows arguments once more, right after the reason. They are the same but for expectations about
headers, where the message shows them with small names.
-/

namespace ResponseCheck

/-- The arguments in the message of an expectation that is not met: names of headers are small. -/
def ExpectationRule.shownArguments (rule : ExpectationRule) : Json :=
  match rule.kind with
  | .header | .headerTypes => (Session.foldHeaderNames rule.expectation).toJson
  | _ => rule.arguments

/-- An expectation about the headers lists small names. -/
def ExpectationRule.NamesSmall (rule : ExpectationRule) : Prop :=
  rule.kind = .header ∨ rule.kind = .headerTypes → rule.expectation.NamesSmall

theorem ExpectationRule.shownArguments_eq_iff {rule : ExpectationRule}
    (h : rule.expected.WellFormed) : rule.shownArguments = rule.arguments ↔ rule.NamesSmall := by
  have hheader : (Session.foldHeaderNames rule.expectation).toJson = rule.expectation.toJson ↔
      rule.expectation.NamesSmall := Session.toJson_foldHeaderNames_eq_iff h
  unfold shownArguments arguments NamesSmall
  cases rule.kind <;> simp [hheader]

namespace Check

variable {policy : Policy} {exchange : Exchange} {rule : ExpectationRule} {result : Report.Result}

theorem Plan.IsFor.frames_of_run_eq_error {plan : Plan} (h : plan.IsFor rule) {failure : Failure}
    (hrun : plan.run { policy, exchange := some exchange } = .error failure) :
    failure.frames.head? = some (.arguments rule.shownArguments) := by
  cases h with
  | json hkind =>
    rw [Session.frames_of_expectJson_eq_error hrun]
    simp [ExpectationRule.shownArguments, ExpectationRule.arguments, hkind]
  | jsonTypes hkind =>
    rw [Session.frames_of_expectJson_eq_error hrun]
    simp [ExpectationRule.shownArguments, ExpectationRule.arguments, hkind]
  | header hkind =>
    rw [Session.frames_of_expectHeader_eq_error hrun]
    simp [ExpectationRule.shownArguments, hkind]
  | headerTypes hkind =>
    rw [Session.frames_of_expectHeader_eq_error hrun]
    simp [ExpectationRule.shownArguments, hkind]
  | status hkind hpath hexpected =>
    rw [Session.frames_of_expectStatus_eq_error hrun]
    simp [ExpectationRule.shownArguments, ExpectationRule.arguments, hkind, hexpected]

/-- The message of a failure shows arguments right after the reason. -/
theorem Reflects.exists_message (h : Reflects policy exchange rule result)
    (hfailed : result.passed = false) :
    ∃ (plan : Plan) (failure : Failure) (frames : List Failure.Frame),
      plan.IsFor rule ∧ plan.run { policy, exchange := some exchange } = .error failure ∧
      result.message = some (failure.reason ++ "\nexpect arguments: " ++
        rule.shownArguments.compact ++ Failure.lines frames) := by
  obtain ⟨plan, hplan, hverdict⟩ := h.verdict
  cases hrun : plan.run { policy, exchange := some exchange } with
  | ok =>
    simp only [hrun] at hverdict
    simp [hverdict] at hfailed
  | error failure =>
    simp only [hrun] at hverdict
    obtain ⟨-, time, hmessage⟩ := hverdict
    obtain ⟨rest, hframes⟩ := List.head?_eq_some_iff.mp (hplan.frames_of_run_eq_error hrun)
    let shown := failure.withFrame (.diagnostics (exchange.dump time))
    have hshown : shown.frames =
        .arguments rule.shownArguments :: (rest ++ [.diagnostics (exchange.dump time)]) := by
      simp [shown, Failure.withFrame, hframes]
    refine ⟨plan, failure, rest ++ [.diagnostics (exchange.dump time)], hplan, hrun, ?_⟩
    rw [hmessage, ← failure.message_withFrame_dump exchange time]
    exact congrArg some (Failure.message_of_arguments hshown)

/-- **Failures show arguments.** Whatever is wrong, an expectation about the body shows first the
arguments as they were given. An expectation about headers shows them with small names, and shows
none if there is no response; so they are as given if and only if the names are small. In the same
way, the message of a result shows arguments right after the reason, and these are the arguments of
the result but for names of headers that are not small. -/
theorem failures_show_arguments {σ ε : Type} (scene : Scene σ ε) (session : Session)
    (predicate : Predicate) (expectation : Expectation) :
    (∀ failure, session.expectJson predicate expectation = .error failure →
      failure.frames.head? = some (.arguments expectation.toJson)) ∧
    (∀ failure, session.expectHeader predicate expectation = .error failure →
      failure.frames.head? = session.exchange.map fun _ =>
        .arguments (Session.foldHeaderNames expectation).toJson) ∧
    (expectation.expected.WellFormed →
      ((Session.foldHeaderNames expectation).toJson = expectation.toJson ↔
        expectation.NamesSmall)) ∧
    ∀ policy exchange expectations, scene.Weighs policy exchange expectations →
      ∃ report, scene.run.1 = .ok report ∧
        List.Forall₂ (fun rule result => result.passed = false →
          (∃ (plan : Plan) (failure : Failure) (frames : List Failure.Frame),
            plan.IsFor rule ∧ plan.run { policy, exchange := some exchange } = .error failure ∧
            result.message = some (failure.reason ++ "\nexpect arguments: " ++
              rule.shownArguments.compact ++ Failure.lines frames)) ∧
          (rule.expected.WellFormed →
            (rule.shownArguments = result.arguments ↔ rule.NamesSmall)))
          expectations report.results := by
  refine ⟨fun _ => Session.frames_of_expectJson_eq_error,
    fun _ => Session.frames_of_expectHeader_eq_error, Session.toJson_foldHeaderNames_eq_iff, ?_⟩
  intro policy exchange expectations hweighs
  obtain ⟨results, hrun, hreflects, -⟩ := hweighs.exists_report
  refine ⟨.ofResults results, hrun, hreflects.imp fun rule result htold hfailed => ?_⟩
  refine ⟨htold.exists_message hfailed, fun hexpected => ?_⟩
  rw [htold.arguments, ExpectationRule.shownArguments_eq_iff hexpected]

/-- The path is `X-A`, but the failure shows `x-a`; without a response it shows no arguments. -/
theorem header_failure_shows_other_arguments :
    let expectation : Expectation := ⟨some "X-A", false, .str "1"⟩
    let response : Http.Response := .make 200 (.ofList [("x-a", "2")]) []
    let shows (session : Session) := ∀ failure,
      session.expectHeader .value expectation = .error failure →
        failure.frames.head? = some (.arguments expectation.toJson)
    ¬ shows { exchange := some ⟨none, response⟩ } ∧ ¬ shows {} := by
  intro expectation response shows
  refine ⟨fun h => ?_, fun h => nomatch h ⟨.noResponse, []⟩ rfl⟩
  let session : Session := { exchange := some ⟨none, response⟩ }
  cases hcheck : session.expectHeader .value expectation with
  | ok =>
    have hfails : (session.expectHeader .value expectation).toOption = none := by cbv
    rw [hcheck] at hfails
    cases hfails
  | error failure =>
    have hshown := (Session.frames_of_expectHeader_eq_error hcheck).symm.trans (h failure hcheck)
    have hfolded : (Session.foldHeaderNames expectation).toJson = .arr [.str "x-a", .str "1"] := by
      cbv
    rw [hfolded] at hshown
    simp [Expectation.toJson, expectation] at hshown

end Check

end ResponseCheck
