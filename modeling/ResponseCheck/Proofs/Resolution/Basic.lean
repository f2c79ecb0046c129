import Mathlib.Data.List.Induction
import ResponseCheck.Resolution

/-!
# One step of a resolution

Resolution with a pure check is a function of the segments that are left. Its equations say what
one segment does: a key steps into the value, a wildcard aggregates the verdicts on its elements,
and a null settles an optional path at once. The verdict of a wildcard passes when the verdicts on
its elements do, all of them or one of them.

## Main definitions

* `verdictFrom` — the verdict on the segments that are left of a path
* `Json.IsContainer`, `Json.IsElement` — the values that a wildcard ranges over

## Main results

* `resolution_induction` — the six ways in which a resolution goes on
* `verdictFrom_child`, `verdictFrom_elements` — what one segment does
* `foldl_tally_add`, `aggregate_all`, `aggregate_one` — the verdict of a wildcard by its failures
* `aggregate_all_eq_ok_iff`, `aggregate_one_eq_ok_iff` — when a wildcard passes
-/

namespace ResponseCheck

namespace Json

variable {value element : Json} {elements : List Json}

/-- Arrays and objects. -/
def IsContainer : Json → Prop
  | .arr _ => True
  | .obj _ => True
  | _ => False

/-- The items of an array, and the entry values of an object. -/
inductive IsElement : Json → Json → Prop
  | item {items : List Json} {element : Json} (h : element ∈ items) : IsElement element (.arr items)
  | entry {entries : List (String × Json)} {name : String} {element : Json}
      (h : (name, element) ∈ entries) : IsElement element (.obj entries)

theorem isContainer_of_elements? (h : value.elements? = some elements) : value.IsContainer := by
  cases value <;> simp [elements?, IsContainer] at h ⊢

theorem not_isContainer_of_elements? (h : value.elements? = none) : ¬ value.IsContainer := by
  cases value <;> simp [elements?, IsContainer] at h ⊢

theorem mem_elements?_iff (h : value.elements? = some elements) :
    element ∈ elements ↔ element.IsElement value := by
  cases value with
  | arr items =>
    obtain rfl : items = elements := by simpa [elements?] using h
    exact ⟨.item, fun | .item hmem => hmem⟩
  | obj entries =>
    obtain rfl : entries.map Prod.snd = elements := by simpa [elements?] using h
    constructor
    · intro hmem
      obtain ⟨⟨name, _⟩, hentry, rfl⟩ := List.mem_map.mp hmem
      exact .entry hentry
    · rintro (_ | hentry)
      exact List.mem_map.mpr ⟨_, hentry, rfl⟩
  | null | bool | num | str => simp [elements?] at h

@[simp] theorem isNull_iff : value.isNull = true ↔ value = .null := by
  cases value <;> simp [isNull]

theorem step_eq_ok_iff {key : String} {next : Json} :
    value.step key = .ok next ↔ value.child? key = some next := by
  rw [step]
  cases value.child? key <;> simp

theorem eq_navigation_of_step_eq_error {key : String} {mismatch : Mismatch}
    (h : value.step key = .error mismatch) : mismatch = .navigation key value := by
  unfold step at h
  split at h <;> cases h
  rfl

end Json

/-! ### Aggregation -/

namespace Verdict

/-- The mismatch of a failed verdict. -/
def failure? : Verdict → Option Mismatch
  | .ok _ => none
  | .error mismatch => some mismatch

@[simp] theorem failure?_ok (u : Unit) : Verdict.failure? (.ok u) = none := rfl

@[simp] theorem failure?_error (mismatch : Mismatch) :
    Verdict.failure? (.error mismatch) = some mismatch := rfl

theorem failure?_eq_none_iff {verdict : Verdict} : failure? verdict = none ↔ verdict = .ok () := by
  rcases verdict with mismatch | ⟨⟩ <;> simp

theorem failure?_eq_some_iff {verdict : Verdict} {mismatch : Mismatch} :
    failure? verdict = some mismatch ↔ verdict = .error mismatch := by
  rcases verdict with other | ⟨⟩ <;> simp

end Verdict

theorem isOk_eq_true_iff {verdict : Verdict} : verdict.isOk = true ↔ verdict = .ok () := by
  rcases verdict with mismatch | ⟨⟩ <;> simp [Except.isOk, Except.toBool]

variable {policy : Policy} {path : String} {container : Json} {verdicts : List Verdict}

/-- The tally of verdicts that were all counted. -/
theorem foldl_tally_add (policy : Policy) (quantifier : Quantifier) (verdicts : List Verdict) :
    verdicts.foldl (Tally.add policy quantifier) {} =
      let failures := verdicts.filterMap Verdict.failure?
      match quantifier, policy with
      | .all, .collectAll => ⟨verdicts.length, failures.length, none, failures⟩
      | _, _ => ⟨verdicts.length, failures.length, failures.getLast?, []⟩ := by
  induction verdicts using List.reverseRecOn with
  | nil => cases quantifier <;> cases policy <;> rfl
  | append_singleton verdicts verdict ih =>
    rw [List.foldl_append, ih]
    cases verdict <;> cases quantifier <;> cases policy <;> simp [Tally.add]

/-- The verdict of a wildcard for all elements, by the failures under it. -/
theorem aggregate_all :
    aggregate policy .all path container verdicts =
      let failures := verdicts.filterMap Verdict.failure?
      match policy, failures.getLast? with
      | _, none => .ok ()
      | .mostRecent, some last => .error (.allFailed path verdicts.length failures.length last)
      | .collectAll, some _ => .error (.allFailures path verdicts.length failures) := by
  simp only [aggregate, foldl_tally_add]
  cases hlast : (verdicts.filterMap Verdict.failure?).getLast? with
  | none =>
    have hnil := List.getLast?_eq_none_iff.mp hlast
    cases policy <;> simp [hnil]
  | some last =>
    have hlength : (verdicts.filterMap Verdict.failure?).length ≠ 0 :=
      Nat.ne_zero_of_lt (List.length_pos_of_mem (List.mem_of_getLast? hlast))
    cases policy <;> simp only [if_neg hlength]

/-- The verdict of a wildcard for one element, by the failures under it. -/
theorem aggregate_one :
    aggregate policy .one path container verdicts =
      let failures := verdicts.filterMap Verdict.failure?
      if failures.length = verdicts.length then
        .error (.noneMatched path verdicts.length failures.length container)
      else .ok () := by
  simp only [aggregate, foldl_tally_add]

theorem failures_eq_nil_iff :
    verdicts.filterMap Verdict.failure? = [] ↔ ∀ verdict ∈ verdicts, verdict = .ok () := by
  rw [List.filterMap_eq_nil_iff]
  exact forall₂_congr fun _ _ => Verdict.failure?_eq_none_iff

/-- A wildcard for all elements passes when every verdict does. -/
theorem aggregate_all_eq_ok_iff :
    aggregate policy .all path container verdicts = .ok () ↔
      ∀ verdict ∈ verdicts, verdict = .ok () := by
  rw [← failures_eq_nil_iff, ← List.getLast?_eq_none_iff]
  cases hlast : (verdicts.filterMap Verdict.failure?).getLast? with
  | none => simp [aggregate_all, hlast]
  | some last => cases policy <;> simp [aggregate_all, hlast]

/-- There are as many failures as verdicts only if no verdict passes. -/
theorem length_failures_eq_iff (verdicts : List Verdict) :
    (verdicts.filterMap Verdict.failure?).length = verdicts.length ↔
      ∀ verdict ∈ verdicts, verdict ≠ .ok () := by
  rw [List.length_filterMap_eq_countP, List.countP_eq_length]
  refine forall₂_congr fun verdict _ => ?_
  rw [ne_eq, ← Verdict.failure?_eq_none_iff, Option.isSome_iff_ne_none]

/-- A wildcard for one element passes when some verdict does. -/
theorem aggregate_one_eq_ok_iff :
    aggregate policy .one path container verdicts = .ok () ↔ .ok () ∈ verdicts := by
  have hfailed := length_failures_eq_iff verdicts
  by_cases hmem : .ok () ∈ verdicts
  · have hlength : (verdicts.filterMap Verdict.failure?).length ≠ verdicts.length := fun h =>
      hfailed.mp h _ hmem rfl
    simp [aggregate_one, hlength, hmem]
  · have hlength : (verdicts.filterMap Verdict.failure?).length = verdicts.length :=
      hfailed.mpr fun verdict hverdict hok => hmem (hok ▸ hverdict)
    simp [aggregate_one, hlength, hmem]

/-! ### One segment

A resolution goes on in one of six ways: the path is at its end, a null is forgiven, a key leads
nowhere or to a value, and a wildcard meets a value without elements or with elements. -/

/-- Null has no children, so a value with a child is not forgiven. -/
theorem not_null_of_step {optional : Bool} {key : String} {value next : Json}
    (h : value.step key = .ok next) : (optional && value.isNull) = false := by
  cases value <;> simp_all [Json.step, Json.child?, Json.isNull]

/-- Null has no elements, so a container is not forgiven. -/
theorem not_null_of_elements? {optional : Bool} {value : Json} {elements : List Json}
    (h : value.elements? = some elements) : (optional && value.isNull) = false := by
  cases value <;> simp_all [Json.elements?, Json.isNull]

/-- Induction along a resolution. -/
@[elab_as_elim]
theorem resolution_induction (optional : Bool) {motive : List Segment → Json → Prop}
    (nil : ∀ value, motive [] value)
    (null : ∀ segment rest value, (optional && value.isNull) = true →
      motive (segment :: rest) value)
    (noChild : ∀ key rest value mismatch, (optional && value.isNull) = false →
      value.step key = .error mismatch → motive (.literal key :: rest) value)
    (child : ∀ key rest value next, (optional && value.isNull) = false →
      value.step key = .ok next → motive rest next → motive (.literal key :: rest) value)
    (noElements : ∀ quantifier rest value, (optional && value.isNull) = false →
      value.elements? = none → motive (.wildcard quantifier :: rest) value)
    (elements : ∀ quantifier rest value elements, (optional && value.isNull) = false →
      value.elements? = some elements → (∀ element ∈ elements, motive rest element) →
      motive (.wildcard quantifier :: rest) value)
    (segments : List Segment) (value : Json) : motive segments value := by
  induction segments generalizing value with
  | nil => exact nil value
  | cons segment rest ih =>
    cases hnull : optional && value.isNull with
    | true => exact null segment rest value hnull
    | false =>
      cases segment with
      | literal key =>
        cases hstep : value.step key with
        | error mismatch => exact noChild key rest value mismatch hnull hstep
        | ok next => exact child key rest value next hnull hstep (ih next)
      | wildcard quantifier =>
        cases helements : value.elements? with
        | none => exact noElements quantifier rest value hnull helements
        | some found =>
          exact elements quantifier rest value found hnull helements fun element _ => ih element

section Effects

variable {m : Type → Type} [Monad m] {policy : Policy} {optional : Bool} {check : Json → m Verdict}
  {whole rest : List Segment} {value : Json}

theorem resolveFrom_null (segment : Segment) (hnull : (optional && value.isNull) = true) :
    resolveFrom policy optional check whole (segment :: rest) value = pure (.ok ()) := by
  simp [resolveFrom, hnull]

theorem resolveFrom_noChild {key : String} {mismatch : Mismatch}
    (hnull : (optional && value.isNull) = false) (hstep : value.step key = .error mismatch) :
    resolveFrom policy optional check whole (.literal key :: rest) value =
      pure (.error mismatch) := by
  simp [resolveFrom, hnull, hstep]

theorem resolveFrom_child {key : String} {next : Json} (hnull : (optional && value.isNull) = false)
    (hstep : value.step key = .ok next) :
    resolveFrom policy optional check whole (.literal key :: rest) value =
      resolveFrom policy optional check whole rest next := by
  simp [resolveFrom, hnull, hstep]

theorem resolveFrom_noElements {quantifier : Quantifier}
    (hnull : (optional && value.isNull) = false) (helements : value.elements? = none) :
    resolveFrom policy optional check whole (.wildcard quantifier :: rest) value =
      pure (.error (.notContainer (Segment.join whole) value)) := by
  simp [resolveFrom, hnull, helements]

theorem resolveFrom_elements {quantifier : Quantifier} {elements : List Json}
    (hnull : (optional && value.isNull) = false) (helements : value.elements? = some elements) :
    resolveFrom policy optional check whole (.wildcard quantifier :: rest) value =
      (do
        let verdicts ← elements.mapM (resolveFrom policy optional check rest rest)
        return aggregate policy quantifier (Segment.join whole) value verdicts) := by
  -- At the end of a path the check is what resolves the elements.
  cases rest <;> simp [resolveFrom, hnull, helements]

/-- Flags of results in turn are flags that are had one by one. -/
theorem map_mapM_congr [LawfulMonad m] {α β γ : Type} {f g : α → m β} {flag : β → γ} {as : List α}
    (h : ∀ a ∈ as, flag <$> f a = flag <$> g a) :
    List.map flag <$> as.mapM f = List.map flag <$> as.mapM g := by
  induction as with
  | nil => simp
  | cons a as ih =>
    obtain ⟨ha, has⟩ := List.forall_mem_cons.mp h
    have hsplit (k : α → m β) : List.map flag <$> (a :: as).mapM k = (do
        let first ← flag <$> k a
        let rest ← List.map flag <$> as.mapM k
        return first :: rest) := by
      simp
    rw [hsplit, hsplit, ha, ih has]

end Effects

/-! ### Resolution with a pure check -/

/-- The verdict on the segments that are left of the path `whole`. -/
def verdictFrom (policy : Policy) (optional : Bool) (check : Json → Verdict)
    (whole segments : List Segment) (value : Json) : Verdict :=
  Id.run (resolveFrom policy optional (fun v => pure (check v)) whole segments value)

section Pure

variable {policy : Policy} {optional : Bool} {check : Json → Verdict} {whole rest : List Segment}
  {value : Json}

theorem Path.resolve_eq_verdictFrom (path : Path) :
    path.resolve policy check value =
      verdictFrom policy path.optional check path.segments path.segments value := rfl

@[simp] theorem verdictFrom_nil : verdictFrom policy optional check whole [] value = check value :=
  rfl

theorem verdictFrom_null (segment : Segment) (hnull : (optional && value.isNull) = true) :
    verdictFrom policy optional check whole (segment :: rest) value = .ok () := by
  rw [verdictFrom, resolveFrom_null segment hnull, Id.run_pure]

theorem verdictFrom_noChild {key : String} {mismatch : Mismatch}
    (hnull : (optional && value.isNull) = false) (hstep : value.step key = .error mismatch) :
    verdictFrom policy optional check whole (.literal key :: rest) value = .error mismatch := by
  rw [verdictFrom, resolveFrom_noChild hnull hstep, Id.run_pure]

theorem verdictFrom_child {key : String} {next : Json} (hnull : (optional && value.isNull) = false)
    (hstep : value.step key = .ok next) :
    verdictFrom policy optional check whole (.literal key :: rest) value =
      verdictFrom policy optional check whole rest next := by
  rw [verdictFrom, resolveFrom_child hnull hstep, verdictFrom]

theorem verdictFrom_noElements {quantifier : Quantifier}
    (hnull : (optional && value.isNull) = false) (helements : value.elements? = none) :
    verdictFrom policy optional check whole (.wildcard quantifier :: rest) value =
      .error (.notContainer (Segment.join whole) value) := by
  rw [verdictFrom, resolveFrom_noElements hnull helements, Id.run_pure]

/-- The path that is left after a wildcard is a path of its own for each element. -/
theorem verdictFrom_elements {quantifier : Quantifier} {elements : List Json}
    (hnull : (optional && value.isNull) = false) (helements : value.elements? = some elements) :
    verdictFrom policy optional check whole (.wildcard quantifier :: rest) value =
      aggregate policy quantifier (Segment.join whole) value
        (elements.map (Path.resolve ⟨rest, optional⟩ policy check)) := by
  rw [verdictFrom, resolveFrom_elements hnull helements, Id.run_bind, Id.run_pure,
    List.idRun_mapM]
  rfl

end Pure

end ResponseCheck
