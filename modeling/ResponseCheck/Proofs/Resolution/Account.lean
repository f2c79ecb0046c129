import Mathlib.Data.List.Basic
import ResponseCheck.Expectation
import ResponseCheck.Proofs.Resolution.Basic

/-!
# What a mismatch says is what happened

A mismatch of a wildcard counts the elements and those that failed, keeps the last failure or all of
them, and names the path. All of it is true of the elements that the resolution met: a mismatch can
be read back into the place it comes from, and each one inside of it in the same way, on the path
that was left below the wildcard.
-/

namespace ResponseCheck

/-- The keys of a path before a segment lead from one value to another. -/
inductive Path.Arrives (path : Path) (value : Json) : Nat → Json → Prop
  | start : path.Arrives value 0 value
  | step {index : Nat} {key : String} {here next : Json} (h : path.Arrives value index here)
      (hkey : path.segments[index]? = some (.literal key)) (hstep : here.step key = .ok next) :
      path.Arrives value (index + 1) next

/-- What a mismatch of a wildcard says of the elements of a container, given the verdict on each. -/
inductive Tells (policy : Policy) (path : String) (container : Json) (elements : List Json)
    (verdictOn : Json → Verdict) : Quantifier → Mismatch → Prop
  /-- How many elements fail, at least one, and why the last of them does. -/
  | last {before after : List Json} {element : Json} {failed : Nat} {failure : Mismatch}
      (hpolicy : policy = .mostRecent)
      (hfailed : failed = elements.countP fun element => !(verdictOn element).isOk)
      (hleast : 1 ≤ failed) (hmost : failed ≤ elements.length)
      (helements : elements = before ++ element :: after)
      (hfailure : verdictOn element = .error failure)
      (hafter : ∀ later ∈ after, verdictOn later = .ok ()) :
      Tells policy path container elements verdictOn .all
        (.allFailed path elements.length failed failure)
  /-- Why each failing element fails, in the order of the container. -/
  | every {failures : List Mismatch} (hpolicy : policy = .collectAll)
      (hfailures : failures = elements.filterMap fun element => (verdictOn element).failure?)
      (hsome : failures ≠ []) :
      Tells policy path container elements verdictOn .all
        (.allFailures path elements.length failures)
  /-- That all elements fail. -/
  | none (hnone : ∀ element ∈ elements, verdictOn element ≠ .ok ()) :
      Tells policy path container elements verdictOn .one
        (.noneMatched path elements.length elements.length container)

/-- How a mismatch came about when a path was resolved. The mismatches of the elements of a wildcard
came about in the same way, on the path that is left below it. -/
inductive Accounts (policy : Policy) (check : Json → Verdict) : Path → Json → Mismatch → Prop
  /-- The check refused the value at the end of the path. -/
  | refused {path : Path} {value here : Json} {index : Nat} {mismatch : Mismatch}
      (harrives : path.Arrives value index here) (hend : path.segments[index]? = none)
      (hcheck : check here = .error mismatch) :
      Accounts policy check path value mismatch
  /-- A key leads nowhere. -/
  | noChild {path : Path} {value here : Json} {index : Nat} {key : String}
      (harrives : path.Arrives value index here)
      (hkey : path.segments[index]? = some (.literal key))
      (hnull : (path.optional && here.isNull) = false)
      (hstep : here.step key = .error (.navigation key here)) :
      Accounts policy check path value (.navigation key here)
  /-- A wildcard met a value without elements. -/
  | noElements {path : Path} {value here : Json} {index : Nat} {quantifier : Quantifier}
      (harrives : path.Arrives value index here)
      (hwildcard : path.segments[index]? = some (.wildcard quantifier))
      (hnull : (path.optional && here.isNull) = false) (hcontainer : ¬ here.IsContainer) :
      Accounts policy check path value (.notContainer path.text here)
  /-- A wildcard met elements that fail. -/
  | elements {path : Path} {value container : Json} {index : Nat} {quantifier : Quantifier}
      {elements : List Json} {mismatch : Mismatch}
      (harrives : path.Arrives value index container)
      (hwildcard : path.segments[index]? = some (.wildcard quantifier))
      (helements : container.elements? = some elements)
      (htells : Tells policy path.text container elements
        ((path.subPath index).resolve policy check) quantifier mismatch)
      (hbelow : ∀ element ∈ elements, ∀ below,
        (path.subPath index).resolve policy check element = .error below →
          Accounts policy check (path.subPath index) element below) :
      Accounts policy check path value mismatch

/-! ### One wildcard -/

section Aggregate

variable {policy : Policy} {quantifier : Quantifier} {path : String} {container : Json}
  {elements : List Json} {verdictOn : Json → Verdict} {mismatch : Mismatch}

theorem failures_map :
    (elements.map verdictOn).filterMap Verdict.failure? =
      elements.filterMap fun element => (verdictOn element).failure? :=
  List.filterMap_map ..

theorem isSome_failure? (verdict : Verdict) : verdict.failure?.isSome = !verdict.isOk := by
  cases verdict <;> rfl

/-- There are as many failures as failing elements. -/
theorem length_failures :
    (elements.filterMap fun element => (verdictOn element).failure?).length =
      elements.countP fun element => !(verdictOn element).isOk := by
  rw [List.length_filterMap_eq_countP]
  simp only [isSome_failure?]

/-- The last failure is that of an element after which no other fails. -/
theorem exists_last_failing {failure : Mismatch}
    (h : (elements.filterMap fun element => (verdictOn element).failure?).getLast? = some failure) :
    ∃ before element after, elements = before ++ element :: after ∧
      verdictOn element = .error failure ∧ ∀ later ∈ after, verdictOn later = .ok () := by
  -- The elements split where their failures do, before the last one.
  obtain ⟨earlier, hfailures⟩ := List.getLast?_eq_some_iff.mp h
  obtain ⟨before, rest, hsplit, -, hrest⟩ := List.filterMap_eq_append_iff.mp hfailures
  obtain ⟨passing, element, after, hcons, -, hfailure, hnil⟩ :=
    List.filterMap_eq_cons_iff.mp hrest
  refine ⟨before ++ passing, element, after, ?_, Verdict.failure?_eq_some_iff.mp hfailure, ?_⟩
  · rw [hsplit, hcons, List.append_assoc]
  · intro later hlater
    exact Verdict.failure?_eq_none_iff.mp (List.filterMap_eq_nil_iff.mp hnil later hlater)

/-- A wildcard that fails tells of the elements it was given. -/
theorem tells_of_aggregate_eq_error
    (h : aggregate policy quantifier path container (elements.map verdictOn) = .error mismatch) :
    Tells policy path container elements verdictOn quantifier mismatch := by
  cases quantifier with
  | all =>
    rw [aggregate_all, failures_map, List.length_map] at h
    cases hlast : (elements.filterMap fun element => (verdictOn element).failure?).getLast? with
    | none => simp [hlast] at h
    | some last =>
      have hmem := List.mem_of_getLast? hlast
      -- The two policies agree on which elements fail, and differ in what they keep.
      cases policy with
      | mostRecent =>
        obtain rfl : _ = mismatch := by simpa [hlast] using h
        obtain ⟨before, element, after, helements, hfailure, hafter⟩ := exists_last_failing hlast
        exact .last rfl length_failures (List.length_pos_of_mem hmem)
          (List.length_filterMap_le ..) helements hfailure hafter
      | collectAll =>
        obtain rfl : _ = mismatch := by simpa [hlast] using h
        exact .every rfl rfl (List.ne_nil_of_mem hmem)
  | one =>
    simp only [aggregate_one, List.length_map] at h
    split at h
    · next hlength =>
      cases h
      have hnone : ∀ verdict ∈ elements.map verdictOn, verdict ≠ .ok () :=
        (length_failures_eq_iff _).mp (by rw [hlength, List.length_map])
      rw [hlength]
      exact .none fun element hmem => hnone _ (List.mem_map_of_mem hmem)
    · cases h

end Aggregate

/-! ### Places on a path -/

section Places

variable {path : Path} {policy : Policy} {check : Json → Verdict} {value here : Json} {index : Nat}

theorem getElem?_of_drop_eq_cons {α : Type*} {a : α} {as rest : List α}
    (h : as.drop index = a :: rest) : as[index]? = some a ∧ as.drop (index + 1) = rest := by
  constructor
  · rw [← List.head?_drop, h, List.head?_cons]
  · rw [← List.tail_drop, h, List.tail_cons]

theorem drop_eq_cons_of_getElem? {α : Type*} {a : α} {as : List α} (h : as[index]? = some a) :
    as.drop index = a :: as.drop (index + 1) := by
  obtain ⟨hlt, rfl⟩ := List.getElem?_eq_some_iff.mp h
  exact List.drop_eq_getElem_cons hlt

/-- A resolution goes on from wherever the keys lead. -/
theorem resolve_of_arrives (h : path.Arrives value index here) :
    path.resolve policy check value =
      verdictFrom policy path.optional check path.segments (path.segments.drop index) here := by
  induction h with
  | start => rfl
  | step _ hkey hstep ih =>
    rw [ih, drop_eq_cons_of_getElem? hkey, verdictFrom_child (not_null_of_step hstep) hstep]

/-- At a wildcard, the verdict is that on the elements, each on the path that is left. -/
theorem resolve_of_arrives_wildcard {quantifier : Quantifier} {elements : List Json}
    (h : path.Arrives value index here)
    (hwildcard : path.segments[index]? = some (.wildcard quantifier))
    (helements : here.elements? = some elements) :
    path.resolve policy check value =
      aggregate policy quantifier path.text here
        (elements.map ((path.subPath index).resolve policy check)) := by
  rw [resolve_of_arrives h, drop_eq_cons_of_getElem? hwildcard,
    verdictFrom_elements (not_null_of_elements? helements) helements]
  rfl

/-- At a wildcard that meets no elements, only a null that is forgiven passes. -/
theorem eq_notContainer_of_arrives {quantifier : Quantifier} {mismatch : Mismatch}
    (harrives : path.Arrives value index here)
    (hwildcard : path.segments[index]? = some (.wildcard quantifier))
    (hcontainer : ¬ here.IsContainer) (h : path.resolve policy check value = .error mismatch) :
    mismatch = .notContainer path.text here := by
  rw [resolve_of_arrives harrives, drop_eq_cons_of_getElem? hwildcard] at h
  cases hnull : path.optional && here.isNull with
  | true =>
    rw [verdictFrom_null _ hnull] at h
    cases h
  | false =>
    cases helements : here.elements? with
    | none =>
      rw [verdictFrom_noElements hnull helements] at h
      cases h
      rfl
    | some elements => exact absurd (Json.isContainer_of_elements? helements) hcontainer

/-- A mismatch that a resolution gives from some segment on came about in one of four ways. -/
theorem accounts_of_verdictFrom_eq_error {optional : Bool} {whole segments : List Segment}
    {mismatch : Mismatch} (harrives : (⟨whole, optional⟩ : Path).Arrives value index here)
    (hsegments : whole.drop index = segments)
    (h : verdictFrom policy optional check whole segments here = .error mismatch) :
    Accounts policy check ⟨whole, optional⟩ value mismatch := by
  -- Keys move the place along the same path. Below a wildcard the path that is left starts anew on
  -- each element, so the path, the value and the place are all generalized.
  induction segments, here using resolution_induction optional
    generalizing whole value index mismatch with
  | nil here =>
    exact .refused harrives (List.getElem?_eq_none (List.drop_eq_nil_iff.mp hsegments)) h
  | null segment rest here hnull =>
    rw [verdictFrom_null segment hnull] at h
    cases h
  | noChild key rest here mismatch hnull hstep =>
    obtain ⟨hkey, -⟩ := getElem?_of_drop_eq_cons hsegments
    obtain rfl := Json.eq_navigation_of_step_eq_error hstep
    rw [verdictFrom_noChild hnull hstep] at h
    cases h
    exact .noChild harrives hkey hnull hstep
  | child key rest here next hnull hstep ih =>
    obtain ⟨hkey, hrest⟩ := getElem?_of_drop_eq_cons hsegments
    rw [verdictFrom_child hnull hstep] at h
    exact ih (harrives.step hkey hstep) hrest h
  | noElements quantifier rest here hnull helements =>
    obtain ⟨hwildcard, -⟩ := getElem?_of_drop_eq_cons hsegments
    rw [verdictFrom_noElements hnull helements] at h
    cases h
    exact .noElements harrives hwildcard hnull (Json.not_isContainer_of_elements? helements)
  | elements quantifier rest here elements hnull helements ih =>
    obtain ⟨hwildcard, rfl⟩ := getElem?_of_drop_eq_cons hsegments
    rw [verdictFrom_elements hnull helements] at h
    refine .elements harrives hwildcard helements (tells_of_aggregate_eq_error h) ?_
    intro element hmem below hbelow
    exact ih element hmem .start rfl hbelow

end Places

/-- **Mismatches tell the truth.** Where the keys of a path lead to a wildcard, a mismatch tells of
the elements there, if there are any, and names the path; and so does every mismatch inside of it
that a resolution made. -/
theorem mismatch_tells_truth {path : Path} {policy : Policy} {check : Json → Verdict}
    {value : Json} {mismatch : Mismatch}
    (h : path.resolve policy check value = .error mismatch) :
    (∀ index quantifier here, path.Arrives value index here →
      path.segments[index]? = some (.wildcard quantifier) →
      (∀ elements, here.elements? = some elements →
        Tells policy path.text here elements ((path.subPath index).resolve policy check)
          quantifier mismatch) ∧
      (¬ here.IsContainer → mismatch = .notContainer path.text here)) ∧
    Accounts policy check path value mismatch := by
  refine ⟨?_, accounts_of_verdictFrom_eq_error .start rfl h⟩
  intro index quantifier here harrives hwildcard
  refine ⟨?_, fun hcontainer => eq_notContainer_of_arrives harrives hwildcard hcontainer h⟩
  intro elements helements
  rw [resolve_of_arrives_wildcard harrives hwildcard helements] at h
  exact tells_of_aggregate_eq_error h

/-- Every group is to have a zero. Of three groups two have none, the last one of them at the end;
strictly, both are told of. -/
theorem mismatch_tells_truth_of_groups :
    let path : Path := ⟨[.literal "a", .wildcard .all, .wildcard .one], false⟩
    let isZero := Predicate.check .value (.int 0)
    let groups : List Json := [.arr [.int 1, .int 2], .arr [.int 0, .int 3], .arr [.int 4]]
    let value : Json := .obj [("a", .arr groups)]
    let first : Mismatch := .noneMatched "?" 2 2 (.arr [.int 1, .int 2])
    let last : Mismatch := .noneMatched "?" 1 1 (.arr [.int 4])
    path.Arrives value 1 (.arr groups) ∧
      path.resolve .mostRecent isZero value = .error (.allFailed "a.*.?" 3 2 last) ∧
      Tells .mostRecent "a.*.?" (.arr groups) groups ((path.subPath 1).resolve .mostRecent isZero)
        .all (.allFailed "a.*.?" 3 2 last) ∧
      Accounts .mostRecent isZero path value (.allFailed "a.*.?" 3 2 last) ∧
      path.resolve .collectAll isZero value = .error (.allFailures "a.*.?" 3 [first, last]) ∧
      Tells .collectAll "a.*.?" (.arr groups) groups ((path.subPath 1).resolve .collectAll isZero)
        .all (.allFailures "a.*.?" 3 [first, last]) := by
  intro path isZero groups value first last
  have harrives : path.Arrives value 1 (.arr groups) := .step .start rfl rfl
  have hlast : path.resolve .mostRecent isZero value = .error (.allFailed "a.*.?" 3 2 last) := rfl
  have hevery : path.resolve .collectAll isZero value =
      .error (.allFailures "a.*.?" 3 [first, last]) := rfl
  obtain ⟨htells, haccounts⟩ := mismatch_tells_truth hlast
  obtain ⟨htellsEvery, -⟩ := mismatch_tells_truth hevery
  exact ⟨harrives, hlast, (htells 1 .all _ harrives rfl).1 groups rfl, haccounts, hevery,
    (htellsEvery 1 .all _ harrives rfl).1 groups rfl⟩

end ResponseCheck
