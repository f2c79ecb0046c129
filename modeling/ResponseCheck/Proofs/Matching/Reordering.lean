import ResponseCheck.Proofs.Json.Reordering
import ResponseCheck.Proofs.Matching.Type
import ResponseCheck.Proofs.Matching.Value

/-!
# Matching reordered values

Whether a value matches or conforms does not depend on the order of entries, neither in the value
nor in what is expected of it.
-/

namespace ResponseCheck

open Json (Reorders Alike Stable)

variable {expected expected' actual actual' : Json}

/-! ### Matching -/

/-- An expected value describes reordered values as well. -/
theorem Matches.stable_actual (expected : Json) : Stable (Matches expected) := by
  intro actual actual' hactual h hmatches
  induction expected using Json.induction generalizing actual actual' with
  | null | bool | num | str =>
    -- Values that are no containers describe none.
    cases hmatches
    cases h
  | arr items ih =>
    rw [matches_arr_iff] at hmatches ⊢
    obtain ⟨found, rfl, hlength, hitems⟩ := hmatches
    obtain ⟨found', rfl, hfound, halike⟩ := h.of_arr
    refine ⟨found', rfl, hfound ▸ hlength, fun i item value' hitem hvalue' => ?_⟩
    obtain ⟨value, hvalue, hsame⟩ := Json.exists_alike_left (halike i) hvalue'
    have hwell := Json.wellFormed_arr_iff.mp hactual value (List.mem_of_getElem? hvalue)
    exact Stable.of_alike (ih item (List.mem_of_getElem? hitem)) hwell hsame
      (hitems i item value hitem hvalue)
  | obj entries ih =>
    by_cases hplain : ∀ pattern, entries ≠ [("$regex", .str pattern)]
    · rw [matches_obj_iff hplain] at hmatches ⊢
      obtain ⟨found, rfl, hentries⟩ := hmatches
      obtain ⟨found', rfl, halike⟩ := h.of_obj (Json.wellFormed_obj_iff.mp hactual).1
      refine ⟨found', rfl, fun entry hmem => ?_⟩
      obtain ⟨value, hvalue, hmatches⟩ := hentries entry hmem
      obtain ⟨value', hvalue', hsame⟩ := Json.exists_alike_right (halike entry.1) hvalue
      have hwell : value.WellFormed := hactual.of_child? hvalue
      exact ⟨value', hvalue', Stable.of_alike (ih entry hmem) hwell hsame hmatches⟩
    · -- A pattern describes strings alone.
      simp only [not_forall, not_not] at hplain
      obtain ⟨pattern, rfl⟩ := hplain
      obtain ⟨text, expr, rfl, -⟩ := matches_pattern_iff.mp hmatches
      cases h

/-- A pattern has no other order. -/
theorem eq_of_reorders_pattern {pattern : String}
    (h : Reorders (.obj [("$regex", .str pattern)]) expected') :
    expected' = .obj [("$regex", .str pattern)] := by
  generalize hexpected : Json.obj [("$regex", .str pattern)] = expected at h
  cases h with
  | here h =>
    obtain rfl := Json.obj.inj hexpected
    rw [List.singleton_perm.mp h]
  | item => cases hexpected
  | @entry value _ before after name h =>
    have hmem : (name, value) ∈ [("$regex", Json.str pattern)] := by
      rw [Json.obj.inj hexpected]
      exact List.mem_append_right before List.mem_cons_self
    cases List.mem_singleton.mp hmem
    cases h

/-- Reordered, an expected value describes the same values. -/
theorem Matches.stable_expected (actual : Json) : Stable (Matches · actual) := by
  intro expected expected' hexpected h hmatches
  induction expected using Json.induction generalizing expected' actual with
  | null | bool | num | str => cases h
  | arr items ih =>
    obtain ⟨items', rfl, hlength, halike⟩ := h.of_arr
    rw [matches_arr_iff] at hmatches ⊢
    obtain ⟨found, rfl, hfound, hitems⟩ := hmatches
    refine ⟨found, rfl, hlength ▸ hfound, fun i item' value hitem' hvalue => ?_⟩
    obtain ⟨item, hitem, hsame⟩ := Json.exists_alike_left (halike i) hitem'
    have hmem := List.mem_of_getElem? hitem
    have hmatches := hitems i item value hitem hvalue
    cases hsame with
    | refl => exact hmatches
    | single h =>
      have hwell := Json.wellFormed_arr_iff.mp hexpected item hmem
      exact ih item hmem value hwell h hmatches
  | obj entries ih =>
    obtain ⟨entries', rfl, -⟩ := h.of_obj (Json.wellFormed_obj_iff.mp hexpected).1
    by_cases hplain : ∀ pattern, entries ≠ [("$regex", .str pattern)]
    · have hplain' (pattern : String) : entries' ≠ [("$regex", .str pattern)] := by
        rintro rfl
        exact hplain pattern (Json.obj.inj (eq_of_reorders_pattern h.symm))
      rw [matches_obj_iff hplain] at hmatches
      rw [matches_obj_iff hplain']
      obtain ⟨found, rfl, hentries⟩ := hmatches
      refine ⟨found, rfl, fun ⟨name, item'⟩ hmem' => ?_⟩
      obtain ⟨item, hmem, hsame⟩ := h.symm.entry_mem (h.wellFormed hexpected) hmem'
      obtain ⟨value, hvalue, hmatches⟩ := hentries (name, item) hmem
      refine ⟨value, hvalue, ?_⟩
      cases hsame with
      | refl => exact hmatches
      | single hitem =>
        have hwell := (Json.wellFormed_obj_iff.mp hexpected).2 (name, item) hmem
        exact ih (name, item) hmem value hwell hitem.symm hmatches
    · simp only [not_forall, not_not] at hplain
      obtain ⟨pattern, rfl⟩ := hplain
      rw [eq_of_reorders_pattern h]
      exact hmatches

/-! ### Conforming -/

theorem BaseType.HasValue.stable (type : BaseType) : Stable type.HasValue := by
  intro value value' _ h hvalue
  cases hvalue with
  | array items =>
    obtain ⟨items', rfl, -⟩ := h.of_arr
    exact .array items'
  | object entries =>
    cases h with
    | here => exact .object _
    | entry => exact .object _
  | string | integer | float | number | boolean | null | date => cases h

theorem TypeSpec.HasValue.stable (spec : TypeSpec) : Stable spec.HasValue := by
  intro value value' hwell h hvalue
  cases hvalue with
  | null => cases h
  | base hvalue => exact .base (BaseType.HasValue.stable _ hwell h hvalue)
  | arrayOf hitems =>
    obtain ⟨items', rfl, -⟩ := h.of_arr
    refine .arrayOf fun item' hmem' => ?_
    obtain ⟨item, ⟨hmem⟩, hsame⟩ := h.symm.elements (h.wellFormed hwell) (.item hmem')
    have hitem := Json.wellFormed_arr_iff.mp hwell item hmem
    exact (BaseType.HasValue.stable _).of_alike hitem hsame.symm (hitems item hmem)

/-- An expected type describes reordered values as well. -/
theorem Conforms.stable_actual (expected : Json) : Stable (Conforms expected) := by
  intro actual actual' hactual h hconforms
  induction expected using Json.induction generalizing actual actual' with
  | str name =>
    rw [conforms_str_iff] at hconforms ⊢
    obtain ⟨spec, hparse, hvalue⟩ := hconforms
    exact ⟨spec, hparse, TypeSpec.HasValue.stable spec hactual h hvalue⟩
  | obj entries ih =>
    rw [conforms_obj_iff] at hconforms ⊢
    obtain ⟨found, rfl, hentries⟩ := hconforms
    obtain ⟨found', rfl, halike⟩ := h.of_obj (Json.wellFormed_obj_iff.mp hactual).1
    refine ⟨found', rfl, fun entry hmem => ?_⟩
    rcases hentries entry hmem with ⟨value, hvalue, hconforms⟩ | ⟨hnone, habsence⟩
    · obtain ⟨value', hvalue', hsame⟩ := Json.exists_alike_right (halike entry.1) hvalue
      have hwell : value.WellFormed := hactual.of_child? hvalue
      exact .inl ⟨value', hvalue', Stable.of_alike (ih entry hmem) hwell hsame hconforms⟩
    · exact .inr ⟨Json.eq_none_of_alike (halike entry.1) hnone, habsence⟩
  | null | bool | num | arr => cases hconforms

/-- Reordered, an expected type describes the same values. -/
theorem Conforms.stable_expected (actual : Json) : Stable (Conforms · actual) := by
  intro expected expected' hexpected h hconforms
  induction expected using Json.induction generalizing expected' actual with
  | obj entries ih =>
    obtain ⟨entries', rfl, -⟩ := h.of_obj (Json.wellFormed_obj_iff.mp hexpected).1
    rw [conforms_obj_iff] at hconforms ⊢
    obtain ⟨found, rfl, hentries⟩ := hconforms
    refine ⟨found, rfl, fun ⟨name, type'⟩ hmem' => ?_⟩
    obtain ⟨type, hmem, hsame⟩ := h.symm.entry_mem (h.wellFormed hexpected) hmem'
    have hentry := hentries (name, type) hmem
    cases hsame with
    | refl => exact hentry
    | single htype =>
      rcases hentry with ⟨value, hvalue, hconforms⟩ | ⟨-, text, spec, rfl, -⟩
      · have hwell := (Json.wellFormed_obj_iff.mp hexpected).2 (name, type) hmem
        exact .inl ⟨value, hvalue, ih (name, type) hmem value hwell htype.symm hconforms⟩
      · -- A type whose key may be absent is a text.
        cases htype.symm
  | str => cases h
  | null | bool | num | arr => cases hconforms

end ResponseCheck
