import Mathlib
import ResponseCheck.Proofs.Check.Inputs
import ResponseCheck.Proofs.Check.Reports

/-!
# What a check sends

A check has files around it, and a transport and a clock that may change the world with the files in
it. It looks at the files before anything is sent, and sends the request of its rules if all of them
are right and no response was recorded.

## Main definitions

* `Check.Scene`, `Check.Scene.run` — a check with its surroundings, and what becomes of it
* `RequestRule.Carries` — the headers and the body of the request of rules
* `Check.Scene.Asks` — the request that a check is to send
* `Check.Scene.Checks` — what a check finds when it comes to its expectations

## Main results

* `Check.Scene.run_of_inputs`, `Check.Scene.run_of_error` — the steps of a check
* `Check.sends_once_after_validation` — when a request is sent, and what becomes of the check
-/

namespace ResponseCheck

/-- The body that the request of rules has: a value as JSON, or else a text as it is and any other
value as its JSON text. -/
inductive RequestRule.CarriesBody (rule : RequestRule) : Option Http.Body → Prop where
  | absent (hbody : rule.body = none) : CarriesBody rule none
  | json {value : Json} (hbody : rule.body = some value) (hjson : rule.nonjson = false) :
      CarriesBody rule (some (.json value))
  | verbatim {text : String} (hbody : rule.body = some (.str text)) (hraw : rule.nonjson = true) :
      CarriesBody rule (some (.raw text))
  | printed {value : Json} (hbody : rule.body = some value) (hraw : rule.nonjson = true)
      (htext : ∀ text, value ≠ .str text) : CarriesBody rule (some (.raw value.compact))

/-- The request of rules has all their headers, and their body. -/
structure RequestRule.Carries (rule : RequestRule) (options : Http.RequestOptions) : Prop where
  headers : options.headers = rule.headers.entries
  body : rule.CarriesBody options.body

theorem RequestRule.carriesBody_iff {rule : RequestRule} {body : Option Http.Body} :
    rule.CarriesBody body ↔ body = rule.options.body := by
  constructor
  · rintro (hbody | ⟨hbody, hraw⟩ | ⟨hbody, hraw⟩ | ⟨hbody, hraw, htext⟩)
    case printed value =>
      rw [options, hbody]
      cases value with
      | str text => exact absurd rfl (htext text)
      | _ => simp [hraw]
    all_goals simp [options, *]
  · rintro rfl
    rw [options]
    cases hbody : rule.body with
    | none => exact .absent hbody
    | some value =>
      cases hraw : rule.nonjson with
      | false => exact .json hbody hraw
      | true =>
        cases value with
        | str text => exact .verbatim hbody hraw
        | _ => exact .printed hbody hraw nofun

theorem RequestRule.carries_iff {rule : RequestRule} {options : Http.RequestOptions} :
    rule.Carries options ↔ options = rule.options := by
  constructor
  · rintro ⟨hheaders, hbody⟩
    obtain ⟨headers, body⟩ := options
    obtain rfl : headers = rule.headers.entries := hheaders
    obtain rfl : body = rule.options.body := carriesBody_iff.mp hbody
    rfl
  · rintro rfl
    exact ⟨rfl, carriesBody_iff.mpr rfl⟩

namespace Check

open Session (Wire)

/-- A check and what is around it: a world with files in it, a transport and a clock that may change
the world, and the words for errors of the transport. -/
structure Scene (σ ε : Type) where
  arguments : Arguments
  world : σ
  files : σ → String → File
  env : Session.Environment σ ε
  words : ε → String

namespace Scene

variable {σ ε : Type} (scene : Scene σ ε)

/-- The file at a path when the check begins. -/
def file (path : String) : File := scene.files scene.world path

/-- The surroundings of the check, which keep what goes over the wire. -/
def surroundings : Surroundings (StateM (Wire σ ε)) ε where
  file path := do return scene.files (← get).world path
  transport := scene.env.tapped.transport
  words := scene.words
  clock := scene.env.tapped.clock

/-- What is there when the check begins. -/
def start : Wire σ ε := ⟨scene.world, []⟩

/-- The outcome of the check, and what went over the wire. -/
def run : Outcome × Wire σ ε := (Check.run scene.surroundings scene.arguments).run scene.start

/-- The report on plans against an exchange, from what is there before. -/
def report (plans : List Plan) (settings : Settings) (exchange : Exchange) (before : Wire σ ε) :
    Report × Wire σ ε :=
  let ((results, _), after) :=
    ((Plan.reports scene.surroundings.clock 0 plans).run
      ⟨settings, scene.arguments.policy, some exchange⟩).run before
  (.ofResults results, after)

/-- The exchange that the check gets, or why it gets none. -/
def exchange (settings : Settings) (request? : Option RequestRule) :
    Except Error Exchange × Wire σ ε :=
  match scene.arguments.response, request? with
  | some path, _ => ((readResponse path (scene.file path)).map (⟨none, ·⟩), scene.start)
  | none, some rule =>
    let request := settings.prepare rule.method rule.url rule.options
    let told := scene.env.transport request scene.world
    ((told.1.map (⟨some request, ·⟩)).mapError fun reason => .requestFailed (scene.words reason),
      ⟨told.2, [(request, told.1)]⟩)
  | none, none => (.error .noResponse, scene.start)

/-! ### The steps of a check -/

theorem run_bind_of_ok {α β : Type} {first : ExceptT Error (StateM (Wire σ ε)) α}
    {next : α → ExceptT Error (StateM (Wire σ ε)) β} {before middle : Wire σ ε} {a : α}
    (h : first.run.run before = (.ok a, middle)) :
    (first >>= next).run.run before = (next a).run.run middle := by
  rw [ExceptT.run_bind, StateT.run_bind, h]
  rfl

theorem run_bind_of_error {α β : Type} {first : ExceptT Error (StateM (Wire σ ε)) α}
    {next : α → ExceptT Error (StateM (Wire σ ε)) β} {before middle : Wire σ ε} {error : Error}
    (h : first.run.run before = (.error error, middle)) :
    (first >>= next).run.run before = (.error error, middle) := by
  rw [ExceptT.run_bind, StateT.run_bind, h]
  rfl

theorem run_settings :
    (scene.surroundings.settings scene.arguments).run.run scene.start =
      (settingsIn scene.file scene.arguments.settings, scene.start) := by
  rw [Surroundings.settings]
  cases scene.arguments.settings <;> rfl

theorem run_rules :
    (scene.surroundings.rules scene.arguments).run.run scene.start =
      (rulesIn scene.file scene.arguments.rules, scene.start) := by
  rw [Surroundings.rules, rulesIn]
  cases Document.Format.ofPath? scene.arguments.rules <;> rfl

theorem run_respond (settings : Settings) (policy : Policy) (request? : Option RequestRule) :
    (scene.surroundings.respond scene.arguments request? { settings, policy }).run.run scene.start =
      ((scene.exchange settings request?).1.map fun exchange => ⟨settings, policy, some exchange⟩,
        (scene.exchange settings request?).2) := by
  unfold Surroundings.respond exchange
  cases scene.arguments.response with
  | some path =>
    dsimp only
    refine (run_bind_of_ok (a := scene.file path) rfl).trans ?_
    cases readResponse path (scene.file path) <;> rfl
  | none =>
    cases request? with
    | none => rfl
    | some rule =>
      dsimp only
      rcases hanswer : scene.env.transport
        (settings.prepare rule.method rule.url rule.options) scene.world with ⟨answer, world⟩
      have hrequest := scene.env.run_request_tapped { settings, policy } scene.start rfl hanswer
      refine (run_bind_of_ok (congrArg (Prod.map Except.ok id) hrequest)).trans ?_
      cases answer <;> rfl

theorem run_plans {index : Nat} {rules : List ExpectationRule} {result : Except Error (List Plan)}
    (h : Plan.ofRules index rules = result) (before : Wire σ ε) :
    (liftM (Plan.ofRules index rules) : ExceptT Error (StateM (Wire σ ε)) _).run.run before =
      (result, before) := by
  rw [h]
  cases result <;> rfl

/-- A check whose inputs are wrong does nothing. -/
theorem run_of_error {error : Error} (h : readInputs scene.file scene.arguments = .error error) :
    scene.run = (.error error, scene.start) := by
  rw [readInputs] at h
  rw [run, Check.run]
  rcases Except.bind_eq_error_iff.mp h with hsettings | ⟨settings, hsettings, h⟩
  · exact run_bind_of_error (hsettings ▸ scene.run_settings)
  refine (run_bind_of_ok (hsettings ▸ scene.run_settings)).trans ?_
  rcases Except.bind_eq_error_iff.mp h with hrules | ⟨rules, hrules, h⟩
  · exact run_bind_of_error (hrules ▸ scene.run_rules)
  refine (run_bind_of_ok (hrules ▸ scene.run_rules)).trans ?_
  rcases Except.bind_eq_error_iff.mp h with hplans | ⟨plans, -, h⟩
  · exact run_bind_of_error (run_plans hplans scene.start)
  · cases h

/-- A check whose inputs are right gets an exchange, and reports its plans against it. -/
theorem run_of_inputs {settings : Settings} {rules : Rules} {plans : List Plan}
    (h : readInputs scene.file scene.arguments = .ok (settings, rules, plans)) :
    scene.run =
      match scene.exchange settings rules.request with
      | (.error error, after) => (.error error, after)
      | (.ok exchange, before) =>
        let (report, after) := scene.report plans settings exchange before
        (.ok report, after) := by
  obtain ⟨_, hsettings, h⟩ := Except.bind_eq_ok_iff.mp h
  obtain ⟨_, hrules, h⟩ := Except.bind_eq_ok_iff.mp h
  obtain ⟨_, hplans, ⟨⟩⟩ := Except.bind_eq_ok_iff.mp h
  refine (run_bind_of_ok (hsettings ▸ scene.run_settings)).trans ?_
  refine (run_bind_of_ok (hrules ▸ scene.run_rules)).trans ?_
  refine (run_bind_of_ok (run_plans hplans scene.start)).trans ?_
  have hrespond := scene.run_respond settings scene.arguments.policy rules.request
  rcases hexchange : scene.exchange settings rules.request with ⟨result, before⟩
  rw [hexchange] at hrespond
  cases result with
  | error error => exact run_bind_of_error hrespond
  | ok exchange => exact run_bind_of_ok hrespond

/-! ### What a check finds -/

/-- The request that a check is to send: that of its rules, if there is no recorded response. -/
def Prepares (settings : Settings) (rules : Rules) (request : Http.Request) : Prop :=
  scene.arguments.response = none ∧ ∃ rule options,
    rules.request = some rule ∧ rule.Carries options ∧
      request = settings.prepare rule.method rule.url options

/-- All that a check reads before it sends is right, and there is a request to send. -/
def Asks (request : Http.Request) : Prop :=
  ∃ settings rules, Valid scene.file scene.arguments settings rules ∧
    scene.Prepares settings rules request

/-- Where a check has its exchange from, and what went over the wire until then. -/
inductive Obtains (settings : Settings) (rules : Rules) : Exchange → Wire σ ε → Prop where
  | recorded {path : String} {response : Http.Response}
      (hpath : scene.arguments.response = some path)
      (hresponse : HasResponse scene.file path response) :
      Obtains settings rules ⟨none, response⟩ scene.start
  | answered {request : Http.Request} {response : Http.Response} {world : σ}
      (hrequest : scene.Prepares settings rules request)
      (hanswer : scene.env.transport request scene.world = (.ok response, world)) :
      Obtains settings rules ⟨some request, response⟩ ⟨world, [(request, .ok response)]⟩

/-- What a check finds when it comes to its expectations: valid inputs, and an exchange. -/
structure Checks (settings : Settings) (rules : Rules) (exchange : Exchange) (before : Wire σ ε) :
    Prop where
  valid : Valid scene.file scene.arguments settings rules
  obtains : scene.Obtains settings rules exchange before

variable {scene} {settings : Settings} {rules : Rules}

theorem prepares_iff {request : Http.Request} :
    scene.Prepares settings rules request ↔
      scene.arguments.response = none ∧ ∃ rule, rules.request = some rule ∧
        request = settings.prepare rule.method rule.url rule.options := by
  simp only [Prepares, RequestRule.carries_iff, exists_and_left, exists_eq_left]

theorem obtains_iff {exchange : Exchange} {before : Wire σ ε} :
    scene.Obtains settings rules exchange before ↔
      scene.exchange settings rules.request = (.ok exchange, before) := by
  constructor
  · rintro (⟨hpath, hresponse⟩ | ⟨hrequest, hanswer⟩)
    · simp only [Scene.exchange, hpath, readResponse_eq_ok_iff.mpr hresponse]
      rfl
    · obtain ⟨hnone, rule, hrule, rfl⟩ := prepares_iff.mp hrequest
      simp only [Scene.exchange, hnone, hrule, hanswer]
      rfl
  · intro h
    unfold Scene.exchange at h
    cases hpath : scene.arguments.response with
    | some path =>
      cases hresponse : readResponse path (scene.file path) <;>
        simp only [hpath, hresponse] at h <;> cases h
      exact .recorded hpath (readResponse_eq_ok_iff.mp hresponse)
    | none =>
      cases hrule : rules.request with
      | none => simp [hpath, hrule] at h
      | some rule =>
        rcases hanswer : scene.env.transport (settings.prepare rule.method rule.url rule.options)
          scene.world with ⟨answer, world⟩
        cases answer <;> simp only [hpath, hrule, hanswer] at h <;> cases h
        exact .answered (prepares_iff.mpr ⟨hpath, rule, hrule, rfl⟩) hanswer

/-- The request of the rules is sent to get an exchange, and nothing else is. -/
theorem sent_exchange (settings : Settings) (rules : Rules) :
    let sent := (scene.exchange settings rules.request).2.log.map Prod.fst
    sent.length ≤ 1 ∧ ∀ request, request ∈ sent ↔ scene.Prepares settings rules request := by
  simp only [prepares_iff, Scene.exchange]
  cases scene.arguments.response with
  | some path => simp [start]
  | none => cases rules.request <;> simp [start]

/-- Without an exchange, nothing was done, or a request was sent that got no response. -/
theorem exchange_error {error : Error} {after : Wire σ ε}
    (h : scene.exchange settings rules.request = (.error error, after)) :
    after = scene.start ∨ ∃ request reason world,
      scene.Prepares settings rules request ∧
      scene.env.transport request scene.world = (.error reason, world) ∧
      after = ⟨world, [(request, .error reason)]⟩ ∧
      error = .requestFailed (scene.words reason) := by
  unfold Scene.exchange at h
  cases hpath : scene.arguments.response with
  | some path =>
    rw [hpath] at h
    exact .inl (congrArg Prod.snd h).symm
  | none =>
    cases hrule : rules.request with
    | none =>
      rw [hpath, hrule] at h
      exact .inl (congrArg Prod.snd h).symm
    | some rule =>
      rcases hanswer : scene.env.transport (settings.prepare rule.method rule.url rule.options)
        scene.world with ⟨answer, world⟩
      cases answer <;> simp only [hpath, hrule, hanswer] at h <;> cases h
      exact .inr ⟨_, _, world, prepares_iff.mpr ⟨hpath, rule, hrule, rfl⟩, hanswer, rfl, rfl⟩

theorem log_report (plans : List Plan) (settings : Settings) (exchange : Exchange)
    (before : Wire σ ε) : (scene.report plans settings exchange before).2.log = before.log := by
  obtain ⟨results, world, hreports, -⟩ := Plan.run_reports_tapped scene.env
    ⟨settings, scene.arguments.policy, some exchange⟩ plans 0 before
  rw [report, surroundings, hreports]

/-! ### What becomes of a check -/

theorem eq_of_valid {settings' : Settings} {rules' : Rules} {plans : List Plan}
    (hinputs : readInputs scene.file scene.arguments = .ok (settings, rules, plans))
    (hvalid : Valid scene.file scene.arguments settings' rules') :
    settings' = settings ∧ rules' = rules := by
  obtain ⟨plans', -, hinputs'⟩ := hvalid.exists_readInputs
  rw [hinputs] at hinputs'
  cases hinputs'
  exact ⟨rfl, rfl⟩

theorem not_valid_of_error {error : Error}
    (h : readInputs scene.file scene.arguments = .error error) :
    ¬ Valid scene.file scene.arguments settings rules := by
  intro hvalid
  obtain ⟨plans, -, hinputs⟩ := hvalid.exists_readInputs
  rw [h] at hinputs
  cases hinputs

/-- At most one request is sent, and only after all else was read. -/
theorem sent_run (scene : Scene σ ε) :
    let sent := scene.run.2.log.map Prod.fst
    sent.length ≤ 1 ∧ ∀ request, request ∈ sent ↔ scene.Asks request := by
  cases hinputs : readInputs scene.file scene.arguments with
  | error error =>
    rw [scene.run_of_error hinputs]
    refine ⟨Nat.zero_le 1, fun request => ⟨nofun, ?_⟩⟩
    rintro ⟨settings, rules, hvalid, -⟩
    exact absurd hvalid (not_valid_of_error hinputs)
  | ok inputs =>
    obtain ⟨settings, rules, plans⟩ := inputs
    have hlog : scene.run.2.log = (scene.exchange settings rules.request).2.log := by
      rw [scene.run_of_inputs hinputs]
      rcases scene.exchange settings rules.request with ⟨_ | exchange, before⟩
      · rfl
      · exact log_report plans settings exchange before
    have hasks (request : Http.Request) :
        scene.Asks request ↔ scene.Prepares settings rules request := by
      constructor
      · rintro ⟨settings', rules', hvalid, hprepares⟩
        obtain ⟨rfl, rfl⟩ := eq_of_valid hinputs hvalid
        exact hprepares
      · exact fun hprepares => ⟨settings, rules, (readInputs_eq_ok_iff.mp hinputs).1, hprepares⟩
    simp only [hlog, hasks]
    exact sent_exchange settings rules

/-- A check with valid inputs and an exchange reports all its plans against the exchange. -/
theorem run_of_checks {exchange : Exchange} {before : Wire σ ε}
    (h : scene.Checks settings rules exchange before) :
    ∃ plans, List.Forall₂ Plan.IsFor rules.expectations plans ∧
      scene.run = (scene.report plans settings exchange before).map .ok id := by
  obtain ⟨plans, hplans, hinputs⟩ := h.valid.exists_readInputs
  refine ⟨plans, hplans, ?_⟩
  rw [scene.run_of_inputs hinputs, obtains_iff.mp h.obtains]
  rfl

/-- A check without valid inputs or an exchange ends with an error. -/
theorem run_of_not_checks
    (h : ∀ settings rules exchange before, ¬ scene.Checks settings rules exchange before) :
    ∃ error, scene.run.1 = .error error ∧
      (scene.run.2 = scene.start ∨ ∃ request reason world,
        scene.Asks request ∧
        scene.env.transport request scene.world = (.error reason, world) ∧
        scene.run.2 = ⟨world, [(request, .error reason)]⟩ ∧
        error = .requestFailed (scene.words reason)) := by
  cases hinputs : readInputs scene.file scene.arguments with
  | error error =>
    rw [scene.run_of_error hinputs]
    exact ⟨error, rfl, .inl rfl⟩
  | ok inputs =>
    obtain ⟨settings, rules, plans⟩ := inputs
    have hvalid := (readInputs_eq_ok_iff.mp hinputs).1
    have hrun := scene.run_of_inputs hinputs
    rcases hexchange : scene.exchange settings rules.request with ⟨error | exchange, after⟩
    · rw [hexchange] at hrun
      rw [hrun]
      refine ⟨error, rfl, (exchange_error hexchange).imp_right ?_⟩
      rintro ⟨request, reason, world, hprepares, hanswer, hafter, herror⟩
      exact ⟨request, reason, world, ⟨settings, rules, hvalid, hprepares⟩, hanswer, hafter, herror⟩
    · exact absurd ⟨hvalid, obtains_iff.mpr hexchange⟩ (h settings rules exchange after)

end Scene

/-- **A request is sent once, after everything else is read.** A check sends at most one request.
It sends one if and only if its inputs are valid, no response was recorded and the rules have a
request, and then that request, completed by the settings. If the inputs are valid and there is an
exchange, recorded or answered, then the outcome is the report on the plans of all expectations.
Otherwise there is no report but an error, and nothing was done but to send a request that got no
response, if there was one to send. -/
theorem sends_once_after_validation {σ ε : Type} (scene : Scene σ ε) :
    let sent := scene.run.2.log.map Prod.fst
    sent.length ≤ 1 ∧
    (∀ request, request ∈ sent ↔ scene.Asks request) ∧
    (∀ settings rules exchange before, scene.Checks settings rules exchange before →
      ∃ plans, List.Forall₂ Plan.IsFor rules.expectations plans ∧
        scene.run = (scene.report plans settings exchange before).map .ok id) ∧
    ((∀ settings rules exchange before, ¬ scene.Checks settings rules exchange before) →
      ∃ error, scene.run.1 = .error error ∧
        scene.run.1.exitCode = 3 ∧
        scene.run.1.toJson = refusal error.message [("command", .str "check")] ∧
        (scene.run.2 = scene.start ∨ ∃ request reason world,
          scene.Asks request ∧
          scene.env.transport request scene.world = (.error reason, world) ∧
          scene.run.2 = ⟨world, [(request, .error reason)]⟩ ∧
          error = .requestFailed (scene.words reason))) := by
  intro sent
  obtain ⟨hlength, hsent⟩ := scene.sent_run
  refine ⟨hlength, hsent, fun _ _ _ _ => Scene.run_of_checks, fun hnone => ?_⟩
  obtain ⟨error, herror, hafter⟩ := Scene.run_of_not_checks hnone
  refine ⟨error, herror, ?_, ?_, hafter⟩
  · rw [herror, Outcome.exitCode]
  · rw [herror, Outcome.toJson]

/-- No request is sent if an expectation is about a status that no response can have. -/
example :
    let rules := "\x7b\"request\":\x7b\"url\":\"/\"\x7d,\"expectations\":[" ++
      "\x7b\"kind\":\"status\",\"expected\":65536\x7d]\x7d"
    let scene : Scene Unit String :=
      { arguments := { rules := "rules.json" }
        world := ()
        files := fun _ _ => .regular rules.toUTF8.toList
        env := ⟨fun _ => pure (.ok ⟨200, .empty, []⟩), pure "noon", fun _ => ⟨.noResponse, []⟩⟩
        words := id }
    scene.run = (.error (.statusValue 0), scene.start) := by
  cbv

end Check

end ResponseCheck
