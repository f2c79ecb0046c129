import ResponseCheck.Proofs.Path.Basic
import ResponseCheck.Proofs.Resolution.Basic

/-!
# Resolving joined paths

To resolve two paths one after the other is to resolve the first one with a check that resolves the
second one. Mismatches differ, as they name the path that was left, but whether a value passes does
not, and neither does anything that the check does on the way.
-/

namespace ResponseCheck

/-- What a wildcard makes of whether its elements pass. -/
def Quantifier.holds : Quantifier → List Bool → Bool
  | .all, flags => flags.all id
  | .one, flags => flags.any id

/-- Whether a wildcard passes depends on whether its elements do, and on nothing else. -/
theorem isOk_aggregate (policy : Policy) (quantifier : Quantifier) (path : String)
    (container : Json) (verdicts : List Verdict) :
    (aggregate policy quantifier path container verdicts).isOk =
      quantifier.holds (verdicts.map Except.isOk) := by
  rw [Bool.eq_iff_iff, isOk_eq_true_iff]
  cases quantifier with
  | all => simp [aggregate_all_eq_ok_iff, Quantifier.holds, isOk_eq_true_iff]
  | one => simp [aggregate_one_eq_ok_iff, Quantifier.holds, isOk_eq_true_iff]

variable {m : Type → Type} [Monad m] [LawfulMonad m] {policy : Policy} {optional : Bool}
  {check : Json → m Verdict}

theorem isOk_resolveFrom_elements {whole rest : List Segment} {value : Json}
    {quantifier : Quantifier} {elements : List Json} (hnull : (optional && value.isNull) = false)
    (helements : value.elements? = some elements) :
    Except.isOk <$> resolveFrom policy optional check whole (.wildcard quantifier :: rest) value =
      quantifier.holds <$> List.map Except.isOk <$>
        elements.mapM (resolveFrom policy optional check rest rest) := by
  rw [resolveFrom_elements hnull helements]
  simp [isOk_aggregate]

/-- The path that mismatches name has no say in what passes. -/
theorem isOk_resolveFrom_whole (whole whole' segments : List Segment) (value : Json) :
    Except.isOk <$> resolveFrom policy optional check whole segments value =
      Except.isOk <$> resolveFrom policy optional check whole' segments value := by
  induction segments, value using resolution_induction optional with
  | nil value => rfl
  | null segment rest value hnull =>
    rw [resolveFrom_null segment hnull, resolveFrom_null segment hnull]
  | noChild key rest value mismatch hnull hstep =>
    rw [resolveFrom_noChild hnull hstep, resolveFrom_noChild hnull hstep]
  | child key rest value next hnull hstep ih =>
    rw [resolveFrom_child hnull hstep, resolveFrom_child hnull hstep, ih]
  | noElements quantifier rest value hnull helements =>
    rw [resolveFrom_noElements hnull helements, resolveFrom_noElements hnull helements, map_pure,
      map_pure]
    rfl
  | elements quantifier rest value elements hnull helements =>
    rw [isOk_resolveFrom_elements hnull helements, isOk_resolveFrom_elements hnull helements]

/-- Joined segments pass when the first of them do with a check that resolves the others, and the
check has the same effects in the same order. -/
theorem isOk_resolveFrom_append (whole whole' before after : List Segment) (value : Json) :
    Except.isOk <$> resolveFrom policy optional check whole (before ++ after) value =
      Except.isOk <$> resolveFrom policy optional (resolveFrom policy optional check after after)
        whole' before value := by
  induction before, value using resolution_induction optional generalizing whole whole' with
  | nil value =>
    -- What is left is the second path, under the name of the joined one and under its own.
    exact isOk_resolveFrom_whole whole after after value
  | null segment rest value hnull =>
    rw [List.cons_append, resolveFrom_null segment hnull, resolveFrom_null segment hnull]
  | noChild key rest value mismatch hnull hstep =>
    rw [List.cons_append, resolveFrom_noChild hnull hstep, resolveFrom_noChild hnull hstep]
  | child key rest value next hnull hstep ih =>
    rw [List.cons_append, resolveFrom_child hnull hstep, resolveFrom_child hnull hstep,
      ih whole whole']
  | noElements quantifier rest value hnull helements =>
    rw [List.cons_append, resolveFrom_noElements hnull helements,
      resolveFrom_noElements hnull helements, map_pure, map_pure]
    rfl
  | elements quantifier rest value elements hnull helements ih =>
    -- The mismatches of the elements differ, but whether they pass is all that counts.
    have hverdicts := map_mapM_congr fun element hmem => ih element hmem (rest ++ after) rest
    rw [List.cons_append, isOk_resolveFrom_elements hnull helements,
      isOk_resolveFrom_elements hnull helements, hverdicts]

/-- Whether a value passes a pure check on joined segments. -/
theorem resolve_append_eq_ok_iff (before after : List Segment) (check : Json → Verdict)
    (value : Json) :
    (⟨before ++ after, optional⟩ : Path).resolve policy check value = .ok () ↔
      (⟨before, optional⟩ : Path).resolve policy
        ((⟨after, optional⟩ : Path).resolve policy check) value = .ok () := by
  have heq := @isOk_resolveFrom_append Id _ _ policy optional (fun v => pure (check v))
    (before ++ after) before before after value
  rw [← isOk_eq_true_iff, ← isOk_eq_true_iff]
  exact iff_of_eq (congrArg (· = true) heq)

/-- The values that a pure check is given on joined segments. -/
theorem visits_append (before after : List Segment) (check : Json → Verdict) (value : Json) :
    ((⟨before ++ after, optional⟩ : Path).resolveRecording policy check value).2 =
      (((⟨before, optional⟩ : Path).resolveM policy
        ((⟨after, optional⟩ : Path).resolveM policy (recording check)) value).run []).2 := by
  have heq := @isOk_resolveFrom_append (StateM (List Json)) _ _ policy optional (recording check)
    (before ++ after) before before after value
  exact congrArg (fun visit : StateM (List Json) Bool => (visit.run []).2) heq

/-- **Joined paths compose.** Two texts joined by a dot can be read when each of them can, the first
one does not end with a dot and the second one does not start with one; the segments are then those
of the first and of the second. To resolve them is to resolve the first with a check that resolves
the second: the same values pass, and the check is given the same values in the same order. A check
with effects of any kind has the same effects. -/
theorem joined_paths_compose (first second : String) (optional : Bool) :
    ((∃ whole, Path.parse optional (first ++ "." ++ second) = .ok whole) ↔
      (∃ before, Path.parse optional first = .ok before) ∧
      (∃ after, Path.parse optional second = .ok after) ∧
      first.toList.getLast? ≠ some '.' ∧ second.toList.head? ≠ some '.') ∧
    ∀ whole before after, Path.parse optional (first ++ "." ++ second) = .ok whole →
      Path.parse optional first = .ok before → Path.parse optional second = .ok after →
      whole.segments = before.segments ++ after.segments ∧
      ∀ policy value,
        (∀ check,
          (whole.resolve policy check value = .ok () ↔
            before.resolve policy (after.resolve policy check) value = .ok ()) ∧
          (whole.resolveRecording policy check value).2 =
            ((before.resolveM policy (after.resolveM policy (recording check)) value).run []).2) ∧
        ∀ effectful : Json → m Verdict,
          Except.isOk <$> whole.resolveM policy effectful value =
            Except.isOk <$> before.resolveM policy (after.resolveM policy effectful) value := by
  constructor
  · constructor
    · rintro ⟨whole, hwhole⟩
      obtain ⟨⟨before, after, hbefore, hafter, -⟩, hdots⟩ := Path.parse_join_iff.mp hwhole
      exact ⟨⟨before, hbefore⟩, ⟨after, hafter⟩, hdots⟩
    · rintro ⟨⟨before, hbefore⟩, ⟨after, hafter⟩, hdots⟩
      exact ⟨_, Path.parse_join_iff.mpr ⟨⟨before, after, hbefore, hafter, rfl⟩, hdots⟩⟩
  · -- The joined text is read as two paths, and reading is a function: they are the given ones.
    intro whole before after hwhole hbefore hafter
    obtain ⟨⟨_, _, hfirst, hsecond, rfl⟩, -⟩ := Path.parse_join_iff.mp hwhole
    obtain rfl := Except.ok.inj (hbefore.symm.trans hfirst)
    obtain rfl := Except.ok.inj (hafter.symm.trans hsecond)
    obtain ⟨before, -, rfl⟩ := Path.parse_eq_ok_iff.mp hbefore
    obtain ⟨after, -, rfl⟩ := Path.parse_eq_ok_iff.mp hafter
    refine ⟨rfl, fun policy value => ⟨fun check => ⟨?_, ?_⟩, fun effectful => ?_⟩⟩
    · exact resolve_append_eq_ok_iff before after check value
    · exact visits_append before after check value
    · exact isOk_resolveFrom_append _ _ before after value

/-- The paths are split after a wildcard. A null that is an element at the end of the joined path is
checked by both, and a null before its end by neither. -/
theorem joined_paths_compose_of_nulls :
    let whole : Path := ⟨[.literal "a", .wildcard .all, .wildcard .one], true⟩
    let before : Path := ⟨[.literal "a", .wildcard .all], true⟩
    let after : Path := ⟨[.wildcard .one], true⟩
    let value : Json := .obj [("a", .arr [.arr [.int 1, .int 0], .arr [.null, .int 2], .null])]
    let isZero : Json → Verdict
      | .num (.int 0) => .ok ()
      | actual => .error (.rejected ⟨.differs (.int 0), [], actual⟩)
    LawfulMonad Id ∧ Path.parse true "a.*" = .ok before ∧ Path.parse true "?" = .ok after ∧
      Path.parse true ("a.*" ++ "." ++ "?") = .ok whole ∧
      whole.segments = before.segments ++ after.segments ∧
      (whole.resolve .mostRecent isZero value = .ok () ↔
        before.resolve .mostRecent (after.resolve .mostRecent isZero) value = .ok ()) ∧
      (whole.resolveRecording .mostRecent isZero value).2 = [.int 1, .int 0, .null, .int 2] ∧
      ((before.resolveM .mostRecent (after.resolveM .mostRecent (recording isZero)) value).run
        []).2 = [.int 1, .int 0, .null, .int 2] := by
  intro whole before after value isZero
  obtain ⟨-, hcompose⟩ := joined_paths_compose (m := Id) "a.*" "?" true
  obtain ⟨hsegments, hresolve⟩ := hcompose whole before after rfl rfl rfl
  obtain ⟨hchecks, -⟩ := hresolve .mostRecent value
  obtain ⟨hpasses, hvisits⟩ := hchecks isZero
  have hvisited : (whole.resolveRecording .mostRecent isZero value).2 =
      [.int 1, .int 0, .null, .int 2] := rfl
  exact ⟨inferInstance, rfl, rfl, rfl, hsegments, hpasses, hvisited, hvisits.symm.trans hvisited⟩

end ResponseCheck
