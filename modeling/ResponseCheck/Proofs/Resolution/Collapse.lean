import Mathlib.Data.List.Basic
import ResponseCheck.Expectation
import ResponseCheck.Proofs.Except
import ResponseCheck.Proofs.Resolution.Basic

/-!
# What the policies keep of a failure

One policy keeps the last failing element of a wildcard for all elements, the other one keeps them
all. The first report is the second one *collapsed*: at every depth, a list of failures gives way to
its length and its last member. So the policies agree on verdicts and on the value that a mismatch
points at, provided that the check itself raises no mismatch of a wildcard.
-/

namespace ResponseCheck

namespace Mismatch

mutual

/-- The mismatch with every list of failures replaced by its length and its last member. -/
def collapse : Mismatch → Mismatch
  | .allFailures path total failures =>
    match collapseLast? failures with
    | some last => .allFailed path total failures.length last
    | none => .allFailures path total failures
  | .allFailed path total failed last => .allFailed path total failed last.collapse
  | mismatch => mismatch

/-- The last of several mismatches, collapsed. -/
def collapseLast? : List Mismatch → Option Mismatch
  | [] => none
  | [failure] => some failure.collapse
  | _ :: failures => collapseLast? failures

end

mutual

/-- Whether every list of failures in a mismatch has members. -/
def Listed : Mismatch → Prop
  | .allFailures _ _ failures => failures ≠ [] ∧ AllListed failures
  | .allFailed _ _ _ last => last.Listed
  | _ => True

/-- Whether every list of failures in several mismatches has members. -/
def AllListed : List Mismatch → Prop
  | [] => True
  | failure :: failures => failure.Listed ∧ AllListed failures

end

theorem collapseLast?_eq (failures : List Mismatch) :
    collapseLast? failures = failures.getLast?.map collapse := by
  induction failures with
  | nil => rfl
  | cons failure failures ih =>
    cases failures with
    | nil => rfl
    | cons next failures => rw [collapseLast?, ih, List.getLast?_cons_cons]; simp

theorem lastElement?_eq (failures : List Mismatch) :
    lastElement? failures = failures.getLast?.bind element? := by
  induction failures with
  | nil => rfl
  | cons failure failures ih =>
    cases failures with
    | nil => rfl
    | cons next failures => rw [lastElement?, ih, List.getLast?_cons_cons]; simp

theorem allListed_iff (failures : List Mismatch) :
    AllListed failures ↔ ∀ failure ∈ failures, failure.Listed := by
  induction failures with
  | nil => simp [AllListed]
  | cons failure failures ih => rw [AllListed, ih, List.forall_mem_cons]

theorem collapse_allFailures {path : String} {total : Nat} {failures : List Mismatch}
    {last : Mismatch} (h : failures.getLast? = some last) :
    (allFailures path total failures).collapse =
      .allFailed path total failures.length last.collapse := by
  rw [collapse, collapseLast?_eq, h]
  rfl

/-- A collapsed mismatch points at the same value. -/
theorem element?_collapse : ∀ mismatch : Mismatch, mismatch.collapse.element? = mismatch.element?
  | .allFailures path total failures => by
    cases hlast : failures.getLast? with
    | none =>
      obtain rfl := List.getLast?_eq_none_iff.mp hlast
      rfl
    | some last =>
      have : sizeOf last < 1 + sizeOf path + sizeOf total + sizeOf failures := by
        have := List.sizeOf_lt_of_mem (List.mem_of_getLast? hlast)
        omega
      rw [collapse_allFailures hlast, element?, element?_collapse last, element?,
        lastElement?_eq, hlast]
      rfl
  | .allFailed _ _ _ last => by rw [collapse, element?, element?, element?_collapse last]
  | .invalidPath _ | .navigation _ _ | .notContainer _ _ | .noneMatched _ _ _ _ | .rejected _ => rfl

end Mismatch

/-! ### Aggregation -/

variable {policy : Policy} {quantifier : Quantifier} {path : String} {container : Json}
  {verdicts : List Verdict}

theorem failures_map_collapse :
    (verdicts.map (Except.mapError Mismatch.collapse)).filterMap Verdict.failure? =
      (verdicts.filterMap Verdict.failure?).map Mismatch.collapse := by
  rw [List.filterMap_map, List.map_filterMap]
  refine List.filterMap_congr fun verdict _ => ?_
  cases verdict <;> rfl

/-- Collapsing the verdicts on the elements collapses the verdict of the wildcard. -/
theorem aggregate_mostRecent :
    aggregate .mostRecent quantifier path container
        (verdicts.map (Except.mapError Mismatch.collapse)) =
      (aggregate .collectAll quantifier path container verdicts).mapError Mismatch.collapse := by
  cases quantifier with
  | all =>
    simp only [aggregate_all, failures_map_collapse, List.length_map, List.getLast?_map]
    cases hlast : (verdicts.filterMap Verdict.failure?).getLast? with
    | none => rfl
    | some last => simp [Mismatch.collapse_allFailures hlast]
  | one =>
    simp only [aggregate_one, failures_map_collapse, List.length_map]
    split <;> rfl

theorem listed_of_aggregate_eq_error {mismatch : Mismatch}
    (hverdicts : ∀ failure, .error failure ∈ verdicts → failure.Listed)
    (h : aggregate policy quantifier path container verdicts = .error mismatch) :
    mismatch.Listed := by
  have hfailures : ∀ failure ∈ verdicts.filterMap Verdict.failure?, failure.Listed := by
    intro failure hmem
    obtain ⟨verdict, hverdict, hfailure⟩ := List.mem_filterMap.mp hmem
    exact hverdicts failure (Verdict.failure?_eq_some_iff.mp hfailure ▸ hverdict)
  cases quantifier with
  | all =>
    cases hlast : (verdicts.filterMap Verdict.failure?).getLast? with
    | none => simp [aggregate_all, hlast] at h
    | some last =>
      have hmem := List.mem_of_getLast? hlast
      cases policy with
      | mostRecent =>
        obtain rfl : _ = mismatch := by simpa [aggregate_all, hlast] using h
        exact hfailures last hmem
      | collectAll =>
        obtain rfl : _ = mismatch := by simpa [aggregate_all, hlast] using h
        exact ⟨List.ne_nil_of_mem hmem, (Mismatch.allListed_iff _).mpr hfailures⟩
  | one =>
    simp only [aggregate_one] at h
    split at h
    · cases h
      trivial
    · cases h

/-! ### Resolution -/

/-- The checks whose failures are rejections of a predicate. -/
def Rejecting (check : Json → Verdict) : Prop :=
  ∀ value mismatch, check value = .error mismatch → ∃ rejection, mismatch = .rejected rejection

theorem rejecting_mapError (refuse : Json → Except Rejection Unit) :
    Rejecting fun value => (refuse value).mapError .rejected := by
  intro value mismatch h
  cases hrefuse : refuse value with
  | ok => simp [hrefuse] at h
  | error rejection => exact ⟨rejection, by simpa [hrefuse] using h.symm⟩

theorem Predicate.rejecting_check (predicate : Predicate) (expected : Json) :
    Rejecting (predicate.check expected) := by
  cases predicate <;> exact rejecting_mapError _

variable {optional : Bool} {check : Json → Verdict} {whole segments : List Segment} {value : Json}

/-- Keeping the last failures is the same as keeping all of them and collapsing the result. -/
theorem verdictFrom_mostRecent (hcheck : Rejecting check) :
    verdictFrom .mostRecent optional check whole segments value =
      (verdictFrom .collectAll optional check whole segments value).mapError Mismatch.collapse := by
  induction segments, value using resolution_induction optional generalizing whole with
  | nil value =>
    rw [verdictFrom_nil, verdictFrom_nil]
    cases hverdict : check value with
    | ok => rfl
    | error mismatch =>
      obtain ⟨rejection, rfl⟩ := hcheck value mismatch hverdict
      rfl
  | null segment rest value hnull =>
    rw [verdictFrom_null segment hnull, verdictFrom_null segment hnull]
    rfl
  | noChild key rest value mismatch hnull hstep =>
    obtain rfl := Json.eq_navigation_of_step_eq_error hstep
    rw [verdictFrom_noChild hnull hstep, verdictFrom_noChild hnull hstep]
    rfl
  | child key rest value next hnull hstep ih =>
    rw [verdictFrom_child hnull hstep, verdictFrom_child hnull hstep, ih]
  | noElements quantifier rest value hnull helements =>
    rw [verdictFrom_noElements hnull helements, verdictFrom_noElements hnull helements]
    rfl
  | elements quantifier rest value elements hnull helements ih =>
    have hverdicts : elements.map (Path.resolve ⟨rest, optional⟩ .mostRecent check) =
        (elements.map (Path.resolve ⟨rest, optional⟩ .collectAll check)).map
          (Except.mapError Mismatch.collapse) := by
      rw [List.map_map]
      exact List.map_congr_left fun element hmem => ih element hmem
    rw [verdictFrom_elements hnull helements, verdictFrom_elements hnull helements, hverdicts,
      aggregate_mostRecent]

/-- No list of failures is ever empty, at any depth of a mismatch. -/
theorem listed_of_verdictFrom_eq_error (hcheck : Rejecting check) {mismatch : Mismatch}
    (h : verdictFrom policy optional check whole segments value = .error mismatch) :
    mismatch.Listed := by
  induction segments, value using resolution_induction optional generalizing whole mismatch with
  | nil value =>
    obtain ⟨rejection, rfl⟩ := hcheck value mismatch h
    trivial
  | null segment rest value hnull =>
    rw [verdictFrom_null segment hnull] at h
    cases h
  | noChild key rest value mismatch hnull hstep =>
    obtain rfl := Json.eq_navigation_of_step_eq_error hstep
    rw [verdictFrom_noChild hnull hstep] at h
    cases h
    trivial
  | child key rest value next hnull hstep ih =>
    rw [verdictFrom_child hnull hstep] at h
    exact ih h
  | noElements quantifier rest value hnull helements =>
    rw [verdictFrom_noElements hnull helements] at h
    cases h
    trivial
  | elements quantifier rest value elements hnull helements ih =>
    rw [verdictFrom_elements hnull helements] at h
    refine listed_of_aggregate_eq_error (fun failure hmem => ?_) h
    obtain ⟨element, helement, hfailure⟩ := List.mem_map.mp hmem
    exact ih element helement hfailure

end ResponseCheck
