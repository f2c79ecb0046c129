import ResponseCheck.Proofs.Resolution.Collapse

/-!
# The failing branches of a path

At a wildcard a resolution branches: each element is the start of a branch of its own. A branch has
an address, the positions of the elements that it goes through, and the branches stand in document
order when their addresses stand in lexicographic order. A path of keys and `*` fails when one of
its branches does. When every failure is kept, the mismatch tells of each failing branch once.

## Main definitions

* `Mismatch.flatten` — the failures that a mismatch lists, at every depth
* `BranchFails` — the branch with an address fails
* `failingBranches` — the branches that fail, in document order

## Main results

* `mem_failingBranches_iff`, `pairwise_failingBranches` — which branches are listed, in which order
* `flatten_verdictFrom` — from any segment on, the failures of the verdict are those of the branches
* `strict_mismatch_lists_failing_branches` — a path of keys and `*` loses no failure and tells of
  none twice
-/

namespace ResponseCheck

namespace Mismatch

mutual

/-- The failures that a mismatch stands for: those that it lists, at every depth, or itself. -/
def flatten : Mismatch → List Mismatch
  | .allFailures _ _ failures => flattenAll failures
  | mismatch => [mismatch]

/-- The failures that several mismatches stand for. -/
def flattenAll : List Mismatch → List Mismatch
  | [] => []
  | failure :: failures => failure.flatten ++ flattenAll failures

end

theorem flattenAll_eq (failures : List Mismatch) :
    flattenAll failures = failures.flatMap flatten := by
  induction failures with
  | nil => rfl
  | cons failure failures ih => rw [flattenAll, ih, List.flatMap_cons]

/-- Where every list of failures has members, there is a failure to tell of. -/
theorem flatten_ne_nil : ∀ {mismatch : Mismatch}, mismatch.Listed → mismatch.flatten ≠ []
  | .allFailures _ _ [], h => absurd rfl h.1
  | .allFailures _ _ (_ :: _), ⟨_, hfirst, _⟩ => by
    rw [flatten, flattenAll]
    exact List.append_ne_nil_of_left_ne_nil (flatten_ne_nil hfirst) _
  | .invalidPath _, _ | .navigation _ _, _ | .notContainer _ _, _ | .allFailed _ _ _ _, _
  | .noneMatched _ _ _ _, _ | .rejected _, _ => by
    rw [flatten]
    · exact List.cons_ne_nil _ _
    · nofun

end Mismatch

/-- The failures that a verdict stands for. -/
def Verdict.flatten : Verdict → List Mismatch
  | .ok _ => []
  | .error mismatch => mismatch.flatten

/-- The branch of a path of keys and `*` that has the given address fails with a mismatch. A branch
that is forgiven a null does not fail. The path `whole` is the one that the mismatch would name. -/
inductive BranchFails (optional : Bool) (check : Json → Verdict) :
    List Segment → List Segment → Json → List Nat → Mismatch → Prop
  /-- The check refuses the value at the end of the branch. -/
  | refused {whole : List Segment} {value : Json} {mismatch : Mismatch}
      (hcheck : check value = .error mismatch) :
      BranchFails optional check whole [] value [] mismatch
  /-- A key leads nowhere. -/
  | noChild {whole rest : List Segment} {key : String} {value : Json}
      (hnull : (optional && value.isNull) = false)
      (hstep : value.step key = .error (.navigation key value)) :
      BranchFails optional check whole (.literal key :: rest) value [] (.navigation key value)
  /-- A wildcard meets a value without elements. -/
  | noElements {whole rest : List Segment} {value : Json}
      (hnull : (optional && value.isNull) = false) (hcontainer : ¬ value.IsContainer) :
      BranchFails optional check whole (.wildcard .all :: rest) value []
        (.notContainer (Segment.join whole) value)
  /-- The branch fails further on. -/
  | child {whole rest : List Segment} {key : String} {value next : Json} {address : List Nat}
      {mismatch : Mismatch} (hstep : value.step key = .ok next)
      (h : BranchFails optional check whole rest next address mismatch) :
      BranchFails optional check whole (.literal key :: rest) value address mismatch
  /-- The branch fails below one of the elements. -/
  | element {whole rest : List Segment} {value element : Json} {elements : List Json} {i : Nat}
      {address : List Nat} {mismatch : Mismatch} (helements : value.elements? = some elements)
      (helement : elements[i]? = some element)
      (h : BranchFails optional check rest rest element address mismatch) :
      BranchFails optional check whole (.wildcard .all :: rest) value (i :: address) mismatch

/-- The branches of a path of keys and `*` that fail, each with its address, in document order. -/
def failingBranches (optional : Bool) (check : Json → Verdict) (whole : List Segment) :
    List Segment → Json → List (List Nat × Mismatch)
  | [], value => ((check value).failure?.map ([], ·)).toList
  | segment :: rest, value =>
    if optional && value.isNull then []
    else match segment with
      | .literal key =>
        match value.step key with
        | .error mismatch => [([], mismatch)]
        | .ok next => failingBranches optional check whole rest next
      | .wildcard _ =>
        match value.elements? with
        | none => [([], .notContainer (Segment.join whole) value)]
        | some elements =>
          elements.zipIdx.flatMap fun (element, i) =>
            (failingBranches optional check rest rest element).map fun (address, mismatch) =>
              (i :: address, mismatch)

section Branches

variable {optional : Bool} {check : Json → Verdict} {whole rest segments : List Segment}
  {value : Json}

theorem failingBranches_null (segment : Segment) (hnull : (optional && value.isNull) = true) :
    failingBranches optional check whole (segment :: rest) value = [] := by
  simp [failingBranches, hnull]

theorem failingBranches_noChild {key : String} {mismatch : Mismatch}
    (hnull : (optional && value.isNull) = false) (hstep : value.step key = .error mismatch) :
    failingBranches optional check whole (.literal key :: rest) value = [([], mismatch)] := by
  simp [failingBranches, hnull, hstep]

theorem failingBranches_child {key : String} {next : Json}
    (hnull : (optional && value.isNull) = false) (hstep : value.step key = .ok next) :
    failingBranches optional check whole (.literal key :: rest) value =
      failingBranches optional check whole rest next := by
  simp [failingBranches, hnull, hstep]

theorem failingBranches_noElements {quantifier : Quantifier}
    (hnull : (optional && value.isNull) = false) (helements : value.elements? = none) :
    failingBranches optional check whole (.wildcard quantifier :: rest) value =
      [([], .notContainer (Segment.join whole) value)] := by
  simp [failingBranches, hnull, helements]

theorem failingBranches_elements {quantifier : Quantifier} {elements : List Json}
    (hnull : (optional && value.isNull) = false) (helements : value.elements? = some elements) :
    failingBranches optional check whole (.wildcard quantifier :: rest) value =
      elements.zipIdx.flatMap fun (element, i) =>
        (failingBranches optional check rest rest element).map fun (address, mismatch) =>
          (i :: address, mismatch) := by
  simp [failingBranches, hnull, helements]

/-- The branches that are listed are those that fail. -/
theorem mem_failingBranches_iff (hone : .wildcard .one ∉ segments) {address : List Nat}
    {mismatch : Mismatch} :
    (address, mismatch) ∈ failingBranches optional check whole segments value ↔
      BranchFails optional check whole segments value address mismatch := by
  induction segments, value using resolution_induction optional generalizing whole address with
  | nil value =>
    constructor
    · intro hmem
      obtain ⟨_, hfailure, ⟨⟩⟩ := Option.map_eq_some_iff.mp (Option.mem_toList.mp hmem)
      exact .refused (Verdict.failure?_eq_some_iff.mp hfailure)
    · rintro ⟨hcheck⟩
      simp [failingBranches, hcheck]
  | null segment rest value hnull =>
    rw [failingBranches_null segment hnull]
    refine iff_of_false List.not_mem_nil fun h => ?_
    -- No branch fails at a null that is forgiven, and none goes on from a null.
    obtain ⟨-, rfl⟩ : optional = true ∧ value = .null := by simpa using hnull
    cases h with
    | noChild hnot | noElements hnot => exact Bool.false_ne_true (hnot.symm.trans hnull)
    | child hstep => cases hstep
    | element helements => cases helements
  | noChild key rest value mismatch hnull hstep =>
    obtain rfl := Json.eq_navigation_of_step_eq_error hstep
    rw [failingBranches_noChild hnull hstep, List.mem_singleton]
    constructor
    · rintro ⟨⟩
      exact .noChild hnull hstep
    · intro h
      cases h with
      | noChild => rfl
      | child hother => cases hother.symm.trans hstep
  | child key rest value next hnull hstep ih =>
    rw [failingBranches_child hnull hstep, ih (List.not_mem_of_not_mem_cons hone)]
    constructor
    · exact .child hstep
    · intro h
      cases h with
      | noChild _ hother => cases hother.symm.trans hstep
      | child hother h =>
        cases hother.symm.trans hstep
        exact h
  | noElements quantifier rest value hnull helements =>
    rw [failingBranches_noElements hnull helements, List.mem_singleton]
    cases quantifier with
    | one => exact absurd List.mem_cons_self hone
    | all =>
      constructor
      · rintro ⟨⟩
        exact .noElements hnull (Json.not_isContainer_of_elements? helements)
      · intro h
        cases h with
        | noElements => rfl
        | element hother => cases hother.symm.trans helements
  | elements quantifier rest value elements hnull helements ih =>
    cases quantifier with
    | one => exact absurd List.mem_cons_self hone
    | all =>
      have hrest := List.not_mem_of_not_mem_cons hone
      rw [failingBranches_elements hnull helements, List.mem_flatMap]
      -- The first number of the address is the position of the element.
      constructor
      · rintro ⟨⟨element, i⟩, hmem, hbranch⟩
        obtain ⟨⟨below, _⟩, hbelow, ⟨⟩⟩ := List.mem_map.mp hbranch
        have helement : elements[i]? = some element := List.mem_zipIdx_iff_getElem?.mp hmem
        exact .element helements helement
          ((ih element (List.mem_of_getElem? helement) hrest).mp hbelow)
      · intro h
        cases h with
        | noElements _ hcontainer =>
          exact absurd (Json.isContainer_of_elements? helements) hcontainer
        | @element _ _ _ element _ i below _ hother helement h =>
          obtain rfl := Option.some.inj (hother.symm.trans helements)
          refine ⟨(element, i), List.mem_zipIdx_iff_getElem?.mpr helement, ?_⟩
          exact List.mem_map.mpr
            ⟨(below, mismatch), (ih element (List.mem_of_getElem? helement) hrest).mpr h, rfl⟩

theorem pairwise_snd_lt_zipIdx (elements : List Json) :
    elements.zipIdx.Pairwise fun first later => first.2 < later.2 := by
  rw [← List.pairwise_map (f := Prod.snd) (R := (· < ·)), List.zipIdx_map_snd]
  exact List.pairwise_lt_range'

/-- The branches are listed in document order, and so none of them twice. -/
theorem pairwise_failingBranches :
    (failingBranches optional check whole segments value).Pairwise
      fun branch later => branch.1 < later.1 := by
  induction segments, value using resolution_induction optional generalizing whole with
  | nil value =>
    rw [failingBranches]
    cases (check value).failure? <;> simp
  | null segment rest value hnull =>
    rw [failingBranches_null segment hnull]
    exact .nil
  | noChild key rest value mismatch hnull hstep =>
    rw [failingBranches_noChild hnull hstep]
    exact List.pairwise_singleton ..
  | child key rest value next hnull hstep ih =>
    rw [failingBranches_child hnull hstep]
    exact ih
  | noElements quantifier rest value hnull helements =>
    rw [failingBranches_noElements hnull helements]
    exact List.pairwise_singleton ..
  | elements quantifier rest value elements hnull helements ih =>
    rw [failingBranches_elements hnull helements, List.pairwise_flatMap]
    -- Below one element the rest of the address decides, and between two of them their positions.
    constructor
    · rintro ⟨element, i⟩ hmem
      have helement := List.mem_of_getElem? (List.mem_zipIdx_iff_getElem?.mp hmem)
      rw [List.pairwise_map]
      exact (ih element helement).imp fun hlt => List.cons_lt_cons_iff.mpr (.inr ⟨rfl, hlt⟩)
    · refine (pairwise_snd_lt_zipIdx elements).imp fun hlt branch hbranch later hlater => ?_
      obtain ⟨_, -, rfl⟩ := List.mem_map.mp hbranch
      obtain ⟨_, -, rfl⟩ := List.mem_map.mp hlater
      exact List.cons_lt_cons_iff.mpr (.inl hlt)

/-- Where every failure is kept, the verdict of a wildcard for all elements stands for the failures
that the verdicts on its elements stand for. -/
theorem flatten_aggregate_all {path : String} {container : Json} {verdicts : List Verdict} :
    (aggregate .collectAll .all path container verdicts).flatten =
      verdicts.flatMap Verdict.flatten := by
  have hfailures : (verdicts.filterMap Verdict.failure?).flatMap Mismatch.flatten =
      verdicts.flatMap Verdict.flatten := by
    induction verdicts with
    | nil => rfl
    | cons verdict verdicts ih =>
      cases verdict with
      | ok => exact ih
      | error mismatch => exact congrArg (mismatch.flatten ++ ·) ih
  rw [aggregate_all, ← hfailures]
  cases hlast : (verdicts.filterMap Verdict.failure?).getLast? with
  | none =>
    rw [List.getLast?_eq_none_iff.mp hlast]
    rfl
  | some last =>
    simp only [hlast]
    exact Mismatch.flattenAll_eq _

/-- Where every failure is kept, the verdict stands for the failures of the branches, in order. -/
theorem flatten_verdictFrom (hone : .wildcard .one ∉ segments) (hcheck : Rejecting check) :
    (verdictFrom .collectAll optional check whole segments value).flatten =
      (failingBranches optional check whole segments value).map Prod.snd := by
  induction segments, value using resolution_induction optional generalizing whole with
  | nil value =>
    rw [verdictFrom_nil, failingBranches]
    cases hverdict : check value with
    | ok => rfl
    | error mismatch =>
      obtain ⟨rejection, rfl⟩ := hcheck value mismatch hverdict
      rfl
  | null segment rest value hnull =>
    rw [verdictFrom_null segment hnull, failingBranches_null segment hnull]
    rfl
  | noChild key rest value mismatch hnull hstep =>
    obtain rfl := Json.eq_navigation_of_step_eq_error hstep
    rw [verdictFrom_noChild hnull hstep, failingBranches_noChild hnull hstep]
    rfl
  | child key rest value next hnull hstep ih =>
    rw [verdictFrom_child hnull hstep, failingBranches_child hnull hstep,
      ih (List.not_mem_of_not_mem_cons hone)]
  | noElements quantifier rest value hnull helements =>
    rw [verdictFrom_noElements hnull helements, failingBranches_noElements hnull helements]
    rfl
  | elements quantifier rest value elements hnull helements ih =>
    cases quantifier with
    | one => exact absurd List.mem_cons_self hone
    | all =>
      have hrest := List.not_mem_of_not_mem_cons hone
      rw [verdictFrom_elements hnull helements, failingBranches_elements hnull helements,
        flatten_aggregate_all, List.flatMap_map, List.map_flatMap]
      -- The positions are of no account for the failures.
      conv_lhs => rw [← List.zipIdx_map_fst 0 elements, List.flatMap_map]
      refine List.flatMap_congr fun ⟨element, i⟩ hmem => ?_
      have helement := List.mem_of_getElem? (List.mem_zipIdx_iff_getElem?.mp hmem)
      rw [List.map_map]
      exact ih element helement hrest

end Branches

/-- A verdict that stands for no failure passes, as no list of failures is empty. -/
theorem Verdict.flatten_eq_nil_iff {verdict : Verdict}
    (hlisted : ∀ mismatch, verdict = .error mismatch → mismatch.Listed) :
    verdict.flatten = [] ↔ verdict = .ok () := by
  rcases verdict with mismatch | ⟨⟩
  · exact iff_of_false (Mismatch.flatten_ne_nil (hlisted mismatch rfl)) nofun
  · exact iff_of_true rfl rfl

/-- **Where every failure is kept, none is lost and none told of twice.** Let a path have keys and
`*` alone. Its failing branches can be listed by their addresses in document order. If there are
some, the mismatch lists one failure for each of them in this order; otherwise the value passes. -/
theorem strict_mismatch_lists_failing_branches {path : Path} {check : Json → Verdict}
    (hone : .wildcard .one ∉ path.segments) (hcheck : Rejecting check) (value : Json) :
    ∃ branches : List (List Nat × Mismatch),
      branches.Pairwise (fun branch later => branch.1 < later.1) ∧
      (∀ address failure, (address, failure) ∈ branches ↔
        BranchFails path.optional check path.segments path.segments value address failure) ∧
      (∀ mismatch, path.resolve .collectAll check value = .error mismatch →
        mismatch.flatten = branches.map Prod.snd) ∧
      (path.resolve .collectAll check value = .ok () ↔ ∀ address failure,
        ¬ BranchFails path.optional check path.segments path.segments value address failure) := by
  have hmem (address : List Nat) (failure : Mismatch) :
      (address, failure) ∈
          failingBranches path.optional check path.segments path.segments value ↔
        BranchFails path.optional check path.segments path.segments value address failure :=
    mem_failingBranches_iff hone
  have hflatten : (path.resolve .collectAll check value).flatten =
      (failingBranches path.optional check path.segments path.segments value).map Prod.snd :=
    flatten_verdictFrom hone hcheck
  have hlisted (mismatch : Mismatch) (h : path.resolve .collectAll check value = .error mismatch) :
      mismatch.Listed := listed_of_verdictFrom_eq_error hcheck h
  refine ⟨_, pairwise_failingBranches, hmem, fun mismatch h => ?_, ?_⟩
  · rw [← hflatten, h]
    rfl
  · rw [← Verdict.flatten_eq_nil_iff hlisted, hflatten, List.map_eq_nil_iff,
      List.eq_nil_iff_forall_not_mem, Prod.forall]
    simp only [hmem]

/-- Of six elements the third is null and forgiven, and the fifth is empty. The others fail: at the
end of the path, at a key, at a wildcard, and at the end again. -/
theorem strict_mismatch_lists_failing_branches_of_groups :
    let path : Path := ⟨[.literal "a", .wildcard .all, .literal "b", .wildcard .all], true⟩
    let isZero := Predicate.check .value (.int 0)
    let nameless : Json := .obj [("c", .arr [.int 1])]
    let group (items : List Json) : Json := .obj [("b", .arr items)]
    let value : Json := .obj [("a", .arr [group [.int 1, .int 0, .int 2], nameless, .null,
      .obj [("b", .int 5)], group [], group [.int 3]])]
    let refused (n : Int) : Mismatch := .rejected ⟨.differs (.int 0), [], .int n⟩
    let mismatch : Mismatch := .allFailures "a.*.b.*" 6
      [.allFailures "b.*" 3 [refused 1, refused 2], .navigation "b" nameless,
        .notContainer "b.*" (.int 5), .allFailures "b.*" 1 [refused 3]]
    .wildcard .one ∉ path.segments ∧ Rejecting isZero ∧
      path.resolve .collectAll isZero value = .error mismatch ∧
      ∃ branches : List (List Nat × Mismatch),
        branches.Pairwise (fun branch later => branch.1 < later.1) ∧
        (∀ address failure, (address, failure) ∈ branches ↔
          BranchFails true isZero path.segments path.segments value address failure) ∧
        branches.map Prod.snd = [refused 1, refused 2, .navigation "b" nameless,
          .notContainer "b.*" (.int 5), refused 3] := by
  intro path isZero nameless group value refused mismatch
  have hone : .wildcard .one ∉ path.segments := by decide
  have hcheck : Rejecting isZero := Predicate.rejecting_check .value (.int 0)
  have hmismatch : path.resolve .collectAll isZero value = .error mismatch := rfl
  obtain ⟨branches, hordered, hmem, hflatten, -⟩ :=
    strict_mismatch_lists_failing_branches hone hcheck value
  exact ⟨hone, hcheck, hmismatch, branches, hordered, hmem, (hflatten mismatch hmismatch).symm⟩

end ResponseCheck
