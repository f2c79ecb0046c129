import ResponseCheck.Proofs.Resolution.Reach
import ResponseCheck.Proofs.Resolution.Satisfaction

/-!
# What an optional path forgives

An optional path forgives a null that is reached with segments still to go, and nothing else. Where
no branch comes to such a null, it gives the same verdict as the path that is not optional, with the
same mismatch; where one does, it can only pass more. A null at the end of the path is checked.
-/

namespace ResponseCheck

/-- Whether a branch of a path comes to a null with segments still to go. -/
def MeetsNull (segments : List Segment) (value : Json) : Prop :=
  ∃ before segment after, segments = before ++ segment :: after ∧ Json.null ∈ reached before value

theorem meetsNull_iff {segments : List Segment} {value : Json} :
    MeetsNull segments value ↔ ¬ OnBranches (fun _ here => here ≠ .null) segments value := by
  simp only [MeetsNull, OnBranches, not_forall, not_not]
  constructor
  · rintro ⟨before, segment, after, hsegments, hmem⟩
    exact ⟨before, segment, after, hsegments, .null, hmem, rfl⟩
  · rintro ⟨before, segment, after, hsegments, _, hmem, rfl⟩
    exact ⟨before, segment, after, hsegments, hmem⟩

theorem not_meetsNull_nil (value : Json) : ¬ MeetsNull [] value := by
  rw [meetsNull_iff, not_not]
  exact onBranches_nil _ value

/-- A null with segments still to go is the value itself, or lies behind the first segment. -/
theorem meetsNull_cons_iff {segment : Segment} {rest : List Segment} {value : Json} :
    MeetsNull (segment :: rest) value ↔
      value = .null ∨ ∃ next ∈ reached [segment] value, MeetsNull rest next := by
  simp only [meetsNull_iff, onBranches_cons_iff, not_and_or, not_forall, not_not, exists_prop]

/-- What satisfies a path satisfies it as an optional one. -/
theorem Satisfies.of_required {accepts : Json → Prop} {segments : List Segment} {value : Json}
    (h : Satisfies false accepts segments value) : Satisfies true accepts segments value := by
  induction segments generalizing value with
  | nil => exact h
  | cons segment rest ih =>
    obtain ⟨hfalse, -⟩ | h := h
    · exact absurd hfalse Bool.false_ne_true
    · refine Or.inr ?_
      cases segment with
      | literal key =>
        obtain ⟨next, hstep, hrest⟩ := h
        exact ⟨next, hstep, ih hrest⟩
      | wildcard quantifier =>
        cases quantifier with
        | all =>
          obtain ⟨hcontainer, hevery⟩ := h
          exact ⟨hcontainer, fun element helement => ih (hevery element helement)⟩
        | one =>
          obtain ⟨hcontainer, element, helement, hrest⟩ := h
          exact ⟨hcontainer, element, helement, ih hrest⟩

variable {policy : Policy} {check : Json → Verdict} {whole segments : List Segment} {value : Json}

/-- Where no branch comes to a null with segments still to go, an optional path gives the verdict of
one that is not, and the same mismatch. -/
theorem verdictFrom_optional (h : ¬ MeetsNull segments value) :
    verdictFrom policy true check whole segments value =
      verdictFrom policy false check whole segments value := by
  have hrequired (v : Json) : (false && v.isNull) = false := rfl
  induction segments, value using resolution_induction true generalizing whole with
  | nil value => rfl
  | null segment rest value hnull =>
    -- The optional path stops here, and this is the one place where it does.
    obtain rfl : value = .null := by simpa using hnull
    exact absurd (meetsNull_cons_iff.mpr (Or.inl rfl)) h
  | noChild key rest value mismatch hnull hstep =>
    rw [verdictFrom_noChild hnull hstep, verdictFrom_noChild (hrequired value) hstep]
  | child key rest value next hnull hstep ih =>
    have hnext : ¬ MeetsNull rest next := fun hmeets =>
      h (meetsNull_cons_iff.mpr (Or.inr ⟨next, mem_reached_key hstep, hmeets⟩))
    rw [verdictFrom_child hnull hstep, verdictFrom_child (hrequired value) hstep, ih hnext]
  | noElements quantifier rest value hnull helements =>
    rw [verdictFrom_noElements hnull helements, verdictFrom_noElements (hrequired value) helements]
  | elements quantifier rest value elements hnull helements ih =>
    have hverdicts : elements.map (Path.resolve ⟨rest, true⟩ policy check) =
        elements.map (Path.resolve ⟨rest, false⟩ policy check) := by
      refine List.map_congr_left fun element hmem => ih element hmem fun hmeets => h ?_
      have helement := (Json.mem_elements?_iff helements).mp hmem
      exact meetsNull_cons_iff.mpr (Or.inr ⟨element, mem_reached_element helement, hmeets⟩)
    rw [verdictFrom_elements hnull helements, verdictFrom_elements (hrequired value) helements,
      hverdicts]

/-- **Optional paths forgive null alone.** A path that passes also passes as an optional one. Where
no branch comes to a null with segments still to go, both give the same verdict, and the same
mismatch if there is one. An optional path with segments passes on null. A null at the end, or among
the elements of a wildcard in last position, is given to the check, and counts as the check says. -/
theorem optional_forgives_null_alone (segments : List Segment) (policy : Policy)
    (check : Json → Verdict) (value : Json) :
    let required : Path := ⟨segments, false⟩
    let optional : Path := ⟨segments, true⟩
    (required.resolve policy check value = .ok () → optional.resolve policy check value = .ok ()) ∧
    (¬ MeetsNull segments value →
      optional.resolve policy check value = required.resolve policy check value) ∧
    (segments ≠ [] → optional.resolve policy check .null = .ok ()) ∧
    (.null ∈ reached segments value →
      .null ∈ (optional.resolveRecording policy check value).2) ∧
    (∀ before quantifier container, segments = before ++ [.wildcard quantifier] →
      container ∈ reached before value → Json.null.IsElement container →
        .null ∈ (optional.resolveRecording policy check value).2) ∧
    (∀ whole quantifier container elements, container.elements? = some elements →
      verdictFrom policy true check whole [.wildcard quantifier] container =
        aggregate policy quantifier (Segment.join whole) container (elements.map check)) := by
  intro required optional
  have hvisits : (optional.resolveRecording policy check value).2 = reached segments value :=
    congrArg Prod.snd (resolveFrom_logging (m := Id) [])
  refine ⟨?_, fun h => verdictFrom_optional h, ?_, ?_, ?_, ?_⟩
  · intro h
    exact verdictFrom_eq_ok_iff.mpr (Satisfies.of_required (verdictFrom_eq_ok_iff.mp h))
  · intro hsegments
    obtain ⟨segment, rest, rfl⟩ := List.exists_cons_of_ne_nil hsegments
    exact verdictFrom_null segment rfl
  · intro hmem
    rwa [hvisits]
  · rintro before quantifier container rfl hcontainer hnull
    rw [hvisits, reached_append, List.mem_flatMap]
    exact ⟨container, hcontainer, mem_reached_element hnull⟩
  · intro whole quantifier container elements helements
    exact verdictFrom_elements (not_null_of_elements? helements) helements

/-- A null in last position is checked, and a key that is missing is not forgiven. -/
theorem optional_forgives_null_alone_of_last :
    let segments : List Segment := [.literal "a", .wildcard .all]
    let isBlank : Json → Verdict
      | .null => .ok ()
      | actual => .error (.rejected ⟨.differs .null, [], actual⟩)
    let blanks : Json := .arr [.null, .null]
    let value : Json := .obj [("a", blanks)]
    let other : Json := .obj [("b", blanks)]
    let required : Path := ⟨segments, false⟩
    let optional : Path := ⟨segments, true⟩
    required.resolve .mostRecent isBlank value = .ok () ∧
      optional.resolve .mostRecent isBlank value = .ok () ∧
      ¬ MeetsNull segments value ∧ ¬ MeetsNull segments other ∧
      required.resolve .mostRecent isBlank other = .error (.navigation "a" other) ∧
      optional.resolve .mostRecent isBlank other = .error (.navigation "a" other) ∧
      segments ≠ [] ∧ optional.resolve .mostRecent isBlank .null = .ok () ∧
      .null ∈ reached segments value ∧ blanks ∈ reached [.literal "a"] value ∧
      Json.null.IsElement blanks ∧
      .null ∈ (optional.resolveRecording .mostRecent isBlank value).2 := by
  intro segments isBlank blanks value other required optional
  have hpasses : required.resolve .mostRecent isBlank value = .ok () := rfl
  have hfails : required.resolve .mostRecent isBlank other = .error (.navigation "a" other) := rfl
  have hvalue : ¬ MeetsNull segments value := by
    intro hmeets
    rcases meetsNull_cons_iff.mp hmeets with hroot | ⟨next, hnext, hmeets⟩
    · simp [value] at hroot
    · obtain rfl : next = blanks := List.mem_singleton.mp hnext
      rcases meetsNull_cons_iff.mp hmeets with hblanks | ⟨element, -, hmeets⟩
      · simp [blanks] at hblanks
      · exact not_meetsNull_nil element hmeets
  have hother : ¬ MeetsNull segments other := by
    intro hmeets
    rcases meetsNull_cons_iff.mp hmeets with hroot | ⟨next, hnext, -⟩
    · simp [other] at hroot
    · exact List.not_mem_nil hnext
  have hend : .null ∈ reached segments value := List.mem_cons_self
  have hblanks : blanks ∈ reached [.literal "a"] value := List.mem_cons_self
  have hnull : Json.null.IsElement blanks := .item List.mem_cons_self
  obtain ⟨hmore, -, hroot, hchecked, -, -⟩ :=
    optional_forgives_null_alone segments .mostRecent isBlank value
  obtain ⟨-, hsame, -, -, -, -⟩ :=
    optional_forgives_null_alone segments .mostRecent isBlank other
  exact ⟨hpasses, hmore hpasses, hvalue, hother, hfails, (hsame hother).trans hfails,
    List.cons_ne_nil _ _, hroot (List.cons_ne_nil _ _), hend, hblanks, hnull, hchecked hend⟩

end ResponseCheck
