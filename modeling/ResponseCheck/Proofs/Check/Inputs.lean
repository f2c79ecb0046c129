import Mathlib.Data.List.Forall2
import ResponseCheck.Check
import ResponseCheck.Proofs.Except

/-!
# What a check reads

Before a check gets a response it reads settings and rules, and plans every expectation. Files can
be wrong in many ways; here it is said what it takes for them to be right, and that reading gives a
result in these cases and in no others.
-/

namespace ResponseCheck

/-- The expectation of a rule. -/
def ExpectationRule.expectation (rule : ExpectationRule) : Expectation :=
  ⟨rule.path, rule.optional, rule.expected⟩

/-- A rule about the status has no path, and expects the number of a status. -/
def ExpectationRule.IsPlannable (rule : ExpectationRule) : Prop :=
  rule.kind = .status → rule.path = none ∧ ∃ code : Nat, code < 65536 ∧ rule.expected = .int code

namespace Check

/-! ### Files -/

/-- The settings that a file says, if one is given. -/
inductive HasSettings (file : String → File) : Option String → Settings → Prop where
  | default : HasSettings file none {}
  | read {path : String} {content : List UInt8} {text : String} {settings : Settings}
      (hcontent : file path = .regular content) (htext : Utf8.decode content = .ok text)
      (hsettings : Settings.ofToml text = .ok settings) : HasSettings file (some path) settings

/-- The rules that a file says: a document of a known format with a single object. -/
inductive HasRules (file : String → File) (path : String) (rules : Rules) : Prop where
  | read {format : Document.Format} {content : List UInt8} {entries : List (String × Json)}
      (hformat : Document.Format.ofPath? path = some format)
      (hcontent : file path = .regular content)
      (hentries : Document.read format content = .ok (.obj entries))
      (hrules : Rules.decode (.obj entries) = .ok rules)

/-- The response that a file says. -/
def HasResponse (file : String → File) (path : String) (response : Http.Response) : Prop :=
  ∃ content, file path = .regular content ∧ Http.Response.parse content = .ok response

theorem File.content_eq_ok_iff {file : File} {content : List UInt8} :
    file.content = .ok content ↔ file = .regular content := by
  cases file <;> simp [File.content]

/-- The settings of a check, or why they cannot be read. -/
def settingsIn (file : String → File) : Option String → Except Error Settings
  | none => .ok {}
  | some path => readSettings path (file path)

/-- The rules of a check, or why they cannot be read. -/
def rulesIn (file : String → File) (path : String) : Except Error Rules :=
  match Document.Format.ofPath? path with
  | none => .error (.rulesFormat path)
  | some format => readRules path format (file path)

theorem settingsIn_eq_ok_iff {file : String → File} {path? : Option String} {settings : Settings} :
    settingsIn file path? = .ok settings ↔ HasSettings file path? settings := by
  constructor
  · intro h
    cases path? with
    | none =>
      cases h
      exact .default
    | some path =>
      obtain ⟨content, hcontent, hread⟩ := Except.bind_eq_ok_iff.mp h
      rw [Except.mapError_eq_ok_iff, File.content_eq_ok_iff] at hcontent
      cases htext : Utf8.decode content with
      | error error => simp [htext] at hread
      | ok text =>
        rw [htext] at hread
        exact .read hcontent htext (Except.mapError_eq_ok_iff.mp hread)
  · rintro (_ | ⟨hcontent, htext, hsettings⟩)
    · rfl
    · simp [settingsIn, readSettings, hcontent, File.content, htext, hsettings, bind, Except.bind]

theorem readRules_eq_ok_iff {file : File} {path : String} {format : Document.Format}
    {rules : Rules} :
    readRules path format file = .ok rules ↔
      ∃ content entries, file = .regular content ∧
        Document.read format content = .ok (.obj entries) ∧
        Rules.decode (.obj entries) = .ok rules := by
  cases file with
  | unavailable reason => simp [readRules, bind, Except.bind]
  | directory => simp [readRules, File.content, bind, Except.bind]
  | regular content =>
    cases hread : Document.read format content with
    | error error => simp [readRules, File.content, hread, bind, Except.bind]
    | ok value =>
      cases value <;>
        simp [readRules, File.content, hread, bind, Except.bind, Except.mapError_eq_ok_iff]

theorem rulesIn_eq_ok_iff {file : String → File} {path : String} {rules : Rules} :
    rulesIn file path = .ok rules ↔ HasRules file path rules := by
  constructor
  · intro h
    unfold rulesIn at h
    split at h
    · cases h
    · obtain ⟨content, entries, hcontent, hentries, hrules⟩ := readRules_eq_ok_iff.mp h
      exact .read ‹_› hcontent hentries hrules
  · rintro ⟨hformat, hcontent, hentries, hrules⟩
    rw [rulesIn, hformat]
    exact readRules_eq_ok_iff.mpr ⟨_, _, hcontent, hentries, hrules⟩

theorem readResponse_eq_ok_iff {file : String → File} {path : String} {response : Http.Response} :
    readResponse path (file path) = .ok response ↔ HasResponse file path response := by
  rw [readResponse, Except.bind_eq_ok_iff]
  simp only [Except.mapError_eq_ok_iff, File.content_eq_ok_iff, HasResponse]

/-! ### Plans -/

/-- The plan of a rule. -/
inductive Plan.IsFor (rule : ExpectationRule) : Plan → Prop where
  | json (hkind : rule.kind = .json) : IsFor rule (.body .value rule.expectation)
  | jsonTypes (hkind : rule.kind = .jsonTypes) : IsFor rule (.body .type rule.expectation)
  | header (hkind : rule.kind = .header) : IsFor rule (.header .value rule.expectation)
  | headerTypes (hkind : rule.kind = .headerTypes) : IsFor rule (.header .type rule.expectation)
  | status {code : Http.Status} (hkind : rule.kind = .status) (hpath : rule.path = none)
      (hexpected : rule.expected = .int code.val) : IsFor rule (.status code)

theorem statusOf?_eq_some_iff {value : Json} {code : Http.Status} :
    statusOf? value = some code ↔ value = .int code.val := by
  constructor
  · intro h
    unfold statusOf? at h
    split at h
    · rename_i n
      obtain ⟨hlt, rfl⟩ : ∃ h : n < 65536, ⟨n, h⟩ = code := by
        simpa [Http.Status.ofNat?] using h
      rfl
    · cases h
  · rintro rfl
    exact dif_pos code.isLt

namespace Plan

theorem ofRule_eq_ok_iff {index : Nat} {rule : ExpectationRule} {plan : Plan} :
    ofRule index rule = .ok plan ↔ plan.IsFor rule := by
  constructor
  · intro h
    unfold ofRule at h
    split at h
    · cases h
      exact .json ‹_›
    · cases h
      exact .jsonTypes ‹_›
    · cases h
      exact .header ‹_›
    · cases h
      exact .headerTypes ‹_›
    · split at h <;> cases h
      exact .status ‹_› ‹_› (statusOf?_eq_some_iff.mp ‹_›)
  · rintro (hkind | hkind | hkind | hkind | ⟨hkind, hpath, hexpected⟩)
    case status => simp only [ofRule, hkind, hpath, statusOf?_eq_some_iff.mpr hexpected]
    all_goals simp only [ofRule, hkind, ExpectationRule.expectation]

theorem exists_isFor_iff {rule : ExpectationRule} :
    (∃ plan : Plan, plan.IsFor rule) ↔ rule.IsPlannable := by
  constructor
  · rintro ⟨_, hkind | hkind | hkind | hkind | ⟨-, hpath, hexpected⟩⟩ hstatus
    case status code => exact ⟨hpath, code.val, code.isLt, hexpected⟩
    -- Rules about anything else than the status can always be planned.
    all_goals
      rw [hkind] at hstatus
      cases hstatus
  · intro h
    cases hkind : rule.kind with
    | json => exact ⟨_, .json hkind⟩
    | jsonTypes => exact ⟨_, .jsonTypes hkind⟩
    | header => exact ⟨_, .header hkind⟩
    | headerTypes => exact ⟨_, .headerTypes hkind⟩
    | status =>
      obtain ⟨hpath, code, hcode, hexpected⟩ := h hkind
      exact ⟨.status ⟨code, hcode⟩, .status hkind hpath hexpected⟩

theorem ofRules_eq_ok_iff {index : Nat} {rules : List ExpectationRule} {plans : List Plan} :
    ofRules index rules = .ok plans ↔ List.Forall₂ Plan.IsFor rules plans := by
  induction rules generalizing index plans with
  | nil => simp [ofRules, eq_comm]
  | cons rule rules ih =>
    rw [ofRules, Except.bind_eq_ok_iff, List.forall₂_cons_left_iff]
    simp only [ofRule_eq_ok_iff, Except.bind_eq_ok_iff, ih]
    constructor
    · rintro ⟨plan, hplan, rest, hrest, ⟨⟩⟩
      exact ⟨plan, rest, hplan, hrest, rfl⟩
    · rintro ⟨plan, rest, hplan, hrest, rfl⟩
      exact ⟨plan, hplan, rest, hrest, rfl⟩

/-- Rules have plans if each of them has. -/
theorem exists_forall₂_isFor_iff {rules : List ExpectationRule} :
    (∃ plans, List.Forall₂ Plan.IsFor rules plans) ↔ ∀ rule ∈ rules, rule.IsPlannable := by
  simp only [← exists_isFor_iff]
  induction rules with
  | nil => simp
  | cons rule rules ih => simp [List.forall₂_cons_left_iff, ← ih]

end Plan

/-! ### All inputs -/

/-- Settings and rules that a check can be run with are in its files, and every expectation can be
planned. -/
structure Valid (file : String → File) (arguments : Arguments) (settings : Settings)
    (rules : Rules) : Prop where
  hasSettings : HasSettings file arguments.settings settings
  hasRules : HasRules file arguments.rules rules
  plannable : ∀ rule ∈ rules.expectations, rule.IsPlannable

/-- What is read before a response is got: settings, rules and plans. -/
def readInputs (file : String → File) (arguments : Arguments) :
    Except Error (Settings × Rules × List Plan) := do
  let settings ← settingsIn file arguments.settings
  let rules ← rulesIn file arguments.rules
  return (settings, rules, ← Plan.ofRules 0 rules.expectations)

theorem readInputs_eq_ok_iff {file : String → File} {arguments : Arguments} {settings : Settings}
    {rules : Rules} {plans : List Plan} :
    readInputs file arguments = .ok (settings, rules, plans) ↔
      Valid file arguments settings rules ∧
        List.Forall₂ Plan.IsFor rules.expectations plans := by
  simp only [readInputs, Except.bind_eq_ok_iff, settingsIn_eq_ok_iff, rulesIn_eq_ok_iff,
    Plan.ofRules_eq_ok_iff]
  constructor
  · rintro ⟨_, hsettings, _, hrules, _, hplans, ⟨⟩⟩
    exact ⟨⟨hsettings, hrules, Plan.exists_forall₂_isFor_iff.mp ⟨plans, hplans⟩⟩, hplans⟩
  · rintro ⟨hvalid, hplans⟩
    exact ⟨settings, hvalid.hasSettings, rules, hvalid.hasRules, plans, hplans, rfl⟩

/-- Valid inputs are read. -/
theorem Valid.exists_readInputs {file : String → File} {arguments : Arguments} {settings : Settings}
    {rules : Rules} (h : Valid file arguments settings rules) :
    ∃ plans, List.Forall₂ Plan.IsFor rules.expectations plans ∧
      readInputs file arguments = .ok (settings, rules, plans) := by
  obtain ⟨plans, hplans⟩ := Plan.exists_forall₂_isFor_iff.mpr h.plannable
  exact ⟨plans, hplans, readInputs_eq_ok_iff.mpr ⟨h, hplans⟩⟩

end Check

end ResponseCheck
