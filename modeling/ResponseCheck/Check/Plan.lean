import ResponseCheck.Check.Error
import ResponseCheck.Report
import ResponseCheck.Rules
import ResponseCheck.Session

/-!
# Plans

Before anything is sent, every rule is made into a plan, which is known to be well formed.
-/

namespace ResponseCheck

namespace Check

/-- What is checked of a response. -/
inductive Plan where
  | body (predicate : Predicate) (expectation : Expectation)
  | header (predicate : Predicate) (expectation : Expectation)
  | status (expected : Http.Status)
deriving Repr

/-- The status that a value stands for. -/
def statusOf? : Json → Option Http.Status
  | .num (.int (.ofNat n)) => Http.Status.ofNat? n
  | _ => none

namespace Plan

/-- The plan of the rule at an index. -/
def ofRule (index : Nat) (rule : ExpectationRule) : Except Error Plan :=
  let expectation : Expectation := ⟨rule.path, rule.optional, rule.expected⟩
  match rule.kind with
  | .json => .ok (.body .value expectation)
  | .jsonTypes => .ok (.body .type expectation)
  | .header => .ok (.header .value expectation)
  | .headerTypes => .ok (.header .type expectation)
  | .status =>
    match rule.path, statusOf? rule.expected with
    | some _, _ => .error (.statusPath index)
    | none, none => .error (.statusValue index)
    | none, some code => .ok (.status code)

/-- The plans of rules from an index on. -/
def ofRules (index : Nat) : List ExpectationRule → Except Error (List Plan)
  | [] => .ok []
  | rule :: rules => do return (← ofRule index rule) :: (← ofRules (index + 1) rules)

/-- The kind of a plan. -/
def kind : Plan → ExpectationKind
  | .body .value _ => .json
  | .body .type _ => .jsonTypes
  | .header .value _ => .header
  | .header .type _ => .headerTypes
  | .status _ => .status

/-- The plan as a report shows it. -/
def arguments : Plan → Json
  | .body _ expectation => expectation.toJson
  | .header _ expectation => expectation.toJson
  | .status expected => .arr [.int expected.val]

/-- Checks the last response of a session. -/
def run (session : Session) : Plan → Except Failure Unit
  | .body predicate expectation => session.expectJson predicate expectation
  | .header predicate expectation => session.expectHeader predicate expectation
  | .status expected => session.expectStatus expected

/-- What is reported of the plan at an index. -/
def result (index : Nat) (plan : Plan) (outcome : Except (Captured Failure) Unit) :
    Report.Result where
  index
  kind := plan.kind.name
  arguments := plan.arguments
  passed := outcome.toOption.isSome
  message := match outcome with
    | .ok _ => none
    | .error captured => some (captured.failure id).message

variable {m : Type → Type} [Monad m]

/-- Checks the plan at an index. A failure shows the last exchange. -/
def report (clock : m String) (index : Nat) (plan : Plan) : StateT Session m Report.Result := do
  return plan.result index (← Session.guard clock id do return plan.run (← get))

/-- Checks plans from an index on. -/
def reports (clock : m String) (index : Nat) : List Plan → StateT Session m (List Report.Result)
  | [] => return []
  | plan :: plans => do return (← plan.report clock index) :: (← reports clock (index + 1) plans)

end Plan

end Check

/-- The headers and the body of a request. A body that is not sent as JSON is sent as it is if it is
a text, and else as its JSON text. -/
def RequestRule.options (rule : RequestRule) : Http.RequestOptions where
  headers := rule.headers.entries
  body := rule.body.map fun body =>
    if rule.nonjson then
      match body with
      | .str text => .raw text
      | value => .raw value.compact
    else .json body

end ResponseCheck
