import ResponseCheck.Proofs.Json.Reordering
import ResponseCheck.Proofs.Resolution.Satisfaction

/-! A path visits the entries of an object in their order, but a wildcard only asks whether all of
them or one of them meet the rest of the path. So the order is of no account, as long as it is of
none to the check at the end of the path. -/

namespace ResponseCheck

open Json (Stable)

/-- A path is satisfied more widely if more values are accepted at its end. -/
theorem Satisfies.mono {optional : Bool} {accepts accepts' : Json → Prop}
    (h : ∀ value, accepts value → accepts' value) {segments : List Segment} {value : Json}
    (hsatisfied : Satisfies optional accepts segments value) :
    Satisfies optional accepts' segments value := by
  induction segments generalizing value with
  | nil => exact h value hsatisfied
  | cons segment rest ih =>
    refine hsatisfied.imp_right fun hsatisfied => ?_
    match segment with
    | .literal key =>
      obtain ⟨next, hstep, hnext⟩ := hsatisfied
      exact ⟨next, hstep, ih hnext⟩
    | .wildcard .all =>
      exact ⟨hsatisfied.1, fun element helement => ih (hsatisfied.2 element helement)⟩
    | .wildcard .one =>
      obtain ⟨hcontainer, element, helement, hrest⟩ := hsatisfied
      exact ⟨hcontainer, element, helement, ih hrest⟩

/-- Reordered values satisfy a path alike, if the values at its end are accepted alike. -/
theorem Satisfies.stable {optional : Bool} {accepts : Json → Prop} (haccepts : Stable accepts)
    (segments : List Segment) : Stable (Satisfies optional accepts segments) := by
  induction segments with
  | nil => exact haccepts
  | cons segment rest ih =>
    rintro value value' hvalue h (⟨-, rfl⟩ | hsatisfied)
    · cases h
    refine .inr ?_
    have hvalue' := h.wellFormed hvalue
    match segment with
    | .literal key =>
      obtain ⟨next, hstep, hnext⟩ := hsatisfied
      rw [Json.step_eq_ok_iff] at hstep
      obtain ⟨next', hstep', halike⟩ := Json.exists_alike_right (h.child? hvalue key) hstep
      exact ⟨next', Json.step_eq_ok_iff.mpr hstep',
        ih.of_alike (hvalue.of_child? hstep) halike hnext⟩
    | .wildcard .all =>
      obtain ⟨-, helements⟩ := hsatisfied
      refine ⟨h.isContainer, fun element' helement' => ?_⟩
      -- An element of the reordered value was one of the value.
      obtain ⟨element, helement, halike⟩ := h.symm.elements hvalue' helement'
      exact ih.of_alike (hvalue.isElement helement) halike.symm (helements element helement)
    | .wildcard .one =>
      obtain ⟨-, element, helement, hrest⟩ := hsatisfied
      obtain ⟨element', helement', halike⟩ := h.elements hvalue helement
      exact ⟨h.isContainer, element', helement',
        ih.of_alike (hvalue.isElement helement) halike hrest⟩

end ResponseCheck
