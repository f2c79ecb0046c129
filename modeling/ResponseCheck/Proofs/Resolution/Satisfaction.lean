import ResponseCheck.Proofs.Resolution.Basic

/-!
# What it means for a value to satisfy a path

A path is a formula over a value: a key names the value to go on with, `*` is a universal and `?` an
existential quantifier over the elements of a container. The resolver visits all elements and counts
failures; here it is shown to decide that formula, whichever failures it keeps.
-/

namespace ResponseCheck

/-- The values that satisfy the segments of a path, where `accepts` is what the values at its end
are to meet. -/
def Satisfies (optional : Bool) (accepts : Json → Prop) : List Segment → Json → Prop
  | [], value => accepts value
  | segment :: rest, value =>
    -- Only a null that is reached before the end of the path is forgiven.
    (optional = true ∧ value = .null) ∨
      match segment with
      | .literal key => ∃ next, value.step key = .ok next ∧ Satisfies optional accepts rest next
      | .wildcard .all =>
        value.IsContainer ∧
          ∀ element : Json, element.IsElement value → Satisfies optional accepts rest element
      | .wildcard .one =>
        value.IsContainer ∧
          ∃ element : Json, element.IsElement value ∧ Satisfies optional accepts rest element

section Segments

variable {optional : Bool} {accepts : Json → Prop} {rest : List Segment} {value : Json}
  {elements : List Json}

theorem satisfies_null (segment : Segment) (hnull : (optional && value.isNull) = true) :
    Satisfies optional accepts (segment :: rest) value := by
  rw [Bool.and_eq_true, Json.isNull_iff] at hnull
  exact Or.inl hnull

theorem not_forgiven (hnull : (optional && value.isNull) = false) :
    ¬ (optional = true ∧ value = .null) := by
  rw [← Json.isNull_iff, ← Bool.and_eq_true, hnull]
  exact Bool.false_ne_true

theorem satisfies_literal_iff {key : String} (hnull : (optional && value.isNull) = false) :
    Satisfies optional accepts (.literal key :: rest) value ↔
      ∃ next, value.step key = .ok next ∧ Satisfies optional accepts rest next :=
  or_iff_right (not_forgiven hnull)

theorem satisfies_all_iff (hnull : (optional && value.isNull) = false)
    (helements : value.elements? = some elements) :
    Satisfies optional accepts (.wildcard .all :: rest) value ↔
      ∀ element ∈ elements, Satisfies optional accepts rest element := by
  refine (or_iff_right (not_forgiven hnull)).trans ?_
  simp only [Json.isContainer_of_elements? helements, true_and, Json.mem_elements?_iff helements]

theorem satisfies_one_iff (hnull : (optional && value.isNull) = false)
    (helements : value.elements? = some elements) :
    Satisfies optional accepts (.wildcard .one :: rest) value ↔
      ∃ element ∈ elements, Satisfies optional accepts rest element := by
  refine (or_iff_right (not_forgiven hnull)).trans ?_
  simp only [Json.isContainer_of_elements? helements, true_and, Json.mem_elements?_iff helements]

theorem not_satisfies_noElements {quantifier : Quantifier}
    (hnull : (optional && value.isNull) = false) (helements : value.elements? = none) :
    ¬ Satisfies optional accepts (.wildcard quantifier :: rest) value := by
  have hcontainer := Json.not_isContainer_of_elements? helements
  rintro (hforgiven | hsatisfied)
  · exact not_forgiven hnull hforgiven
  · cases quantifier <;> exact hcontainer hsatisfied.1

end Segments

variable {policy : Policy} {optional : Bool} {check : Json → Verdict}

/-- Resolution from any segment on decides satisfaction. The path `whole`, which changes below each
wildcard, only shows in the mismatches. -/
theorem verdictFrom_eq_ok_iff {whole segments : List Segment} {value : Json} :
    verdictFrom policy optional check whole segments value = .ok () ↔
      Satisfies optional (fun v => check v = .ok ()) segments value := by
  induction segments, value using resolution_induction optional generalizing whole with
  | nil => rfl
  | null segment rest value hnull =>
    exact iff_of_true (verdictFrom_null segment hnull) (satisfies_null segment hnull)
  | noChild key rest value mismatch hnull hstep =>
    rw [verdictFrom_noChild hnull hstep, satisfies_literal_iff hnull]
    simp [hstep]
  | child key rest value next hnull hstep ih =>
    rw [verdictFrom_child hnull hstep, satisfies_literal_iff hnull, ih]
    simp [hstep]
  | noElements quantifier rest value hnull helements =>
    rw [verdictFrom_noElements hnull helements]
    exact iff_of_false (by simp) (not_satisfies_noElements hnull helements)
  | elements quantifier rest value elements hnull helements ih =>
    rw [verdictFrom_elements hnull helements]
    cases quantifier with
    | all =>
      rw [satisfies_all_iff hnull helements, aggregate_all_eq_ok_iff, List.forall_mem_map]
      exact forall₂_congr fun element hmem => ih element hmem
    | one =>
      rw [satisfies_one_iff hnull helements, aggregate_one_eq_ok_iff, List.mem_map]
      exact exists_congr fun element => and_congr_right fun hmem => ih element hmem

/-- An empty container passes under `*` and fails under `?`, wherever in a path it is met. -/
theorem verdictFrom_empty_eq_ok_iff {whole rest : List Segment} {quantifier : Quantifier}
    {container : Json} (h : container.elements? = some []) :
    verdictFrom policy optional check whole (.wildcard quantifier :: rest) container = .ok () ↔
      quantifier = .all := by
  have hnull : (optional && container.isNull) = false := by
    cases container <;> simp [Json.elements?, Json.isNull] at h ⊢
  rw [verdictFrom_elements hnull h]
  cases quantifier with
  | all => simp [aggregate_all_eq_ok_iff]
  | one => simp [aggregate_one_eq_ok_iff]

/-- **Quantifier semantics.** Under either policy, a path resolves exactly when the value satisfies
it. A wildcard in last position treats each element as the empty path does, and an empty container
passes under `*` alone, whatever the path `whole` around them. -/
theorem resolve_decides_satisfaction (path : Path) (policy : Policy) (check : Json → Verdict)
    (value : Json) :
    (path.resolve policy check value = .ok () ↔
      Satisfies path.optional (fun v => check v = .ok ()) path.segments value) ∧
    (∀ whole quantifier items,
      verdictFrom policy path.optional check whole [.wildcard quantifier] (.arr items) =
        aggregate policy quantifier (Segment.join whole) (.arr items)
          (items.map (Path.resolve ⟨[], path.optional⟩ policy check))) ∧
    (∀ whole quantifier entries,
      verdictFrom policy path.optional check whole [.wildcard quantifier] (.obj entries) =
        aggregate policy quantifier (Segment.join whole) (.obj entries)
          ((entries.map Prod.snd).map (Path.resolve ⟨[], path.optional⟩ policy check))) ∧
    (∀ whole rest quantifier,
      (verdictFrom policy path.optional check whole (.wildcard quantifier :: rest) (.arr []) =
        .ok () ↔ quantifier = .all) ∧
      (verdictFrom policy path.optional check whole (.wildcard quantifier :: rest) (.obj []) =
        .ok () ↔ quantifier = .all)) := by
  have hnull (container : Json) (h : container.isNull = false) :
      (path.optional && container.isNull) = false := by rw [h, Bool.and_false]
  refine ⟨verdictFrom_eq_ok_iff, fun whole quantifier items => ?_,
    fun whole quantifier entries => ?_, fun whole rest quantifier => ⟨?_, ?_⟩⟩
  · exact verdictFrom_elements (hnull _ rfl) rfl
  · exact verdictFrom_elements (hnull _ rfl) rfl
  · exact verdictFrom_empty_eq_ok_iff rfl
  · exact verdictFrom_empty_eq_ok_iff rfl

end ResponseCheck
