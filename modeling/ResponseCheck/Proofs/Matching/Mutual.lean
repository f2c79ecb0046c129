import Mathlib.Data.List.Perm.Basic
import ResponseCheck.Proofs.Json.Equality
import ResponseCheck.Proofs.Matching.Reordering

/-!
# Values that match one another

A value that was recorded can be expected again. Without patterns inside of it, it matches itself.
Each of two values only asks the other one for the entries and items that it has itself; but if both
of them match, neither has more than the other one, and they are equal up to the order of entries
and up to numbers that are numerically equal.
-/

namespace ResponseCheck

variable {value value' : Json} {items : List Json} {entries : List (String × Json)}

namespace Json

/-- Neither the value itself nor any value inside of it is a pattern. -/
def PatternFree (value : Json) : Prop :=
  ∀ inner : Json, inner.Inside value → ∀ pattern, inner ≠ .obj [("$regex", .str pattern)]

theorem patternFree_iff :
    value.PatternFree ↔ (∀ pattern, value ≠ .obj [("$regex", .str pattern)]) ∧
      ∀ element : Json, element.IsElement value → element.PatternFree := by
  constructor
  · intro h
    exact ⟨h value .refl, fun element helement inner hinner => h inner (hinner.tail helement)⟩
  · rintro ⟨hself, helements⟩ inner hinner
    cases hinner with
    | refl => exact hself
    | tail hinner helement => exact helements _ helement inner hinner

theorem patternFree_of_not_isContainer (h : ¬ value.IsContainer) : value.PatternFree := by
  refine patternFree_iff.mpr ⟨?_, fun element helement => ?_⟩
  · rintro pattern rfl
    exact h trivial
  · cases helement <;> exact absurd trivial h

theorem patternFree_arr_iff : (arr items).PatternFree ↔ ∀ item ∈ items, item.PatternFree := by
  rw [patternFree_iff, and_iff_right nofun]
  exact ⟨fun h item hmem => h item (.item hmem), fun h _ => fun | .item hmem => h _ hmem⟩

theorem patternFree_obj_iff :
    (obj entries).PatternFree ↔ (∀ pattern, entries ≠ [("$regex", .str pattern)]) ∧
      ∀ entry ∈ entries, entry.2.PatternFree := by
  rw [patternFree_iff]
  refine and_congr (forall_congr' fun pattern => not_congr (iff_of_eq (obj.injEq ..))) ?_
  exact ⟨fun h entry hmem => h entry.2 (.entry hmem), fun h _ => fun | .entry hmem => h _ hmem⟩

/-- Whether there are patterns in a value does not depend on the order of entries. -/
theorem PatternFree.stable : Stable PatternFree := by
  rintro value value' hvalue h hfree inner' hinner' pattern rfl
  obtain ⟨inner, hinner, halike⟩ := Alike.exists_inside (.single h) hvalue hinner'
  cases halike with
  | refl => exact hfree _ hinner pattern rfl
  | single h => exact hfree inner hinner pattern (eq_of_reorders_pattern h.symm)

/-- A value without patterns matches those that differ in numbers that are numerically equal. -/
theorem Eqv.matches (h : Eqv value value') (hwell : value.WellFormed) (hfree : value.PatternFree) :
    Matches value value' := by
  induction h with
  | null => exact .null
  | bool b => exact .bool b
  | num h => exact .number h
  | str s => exact .str s
  | array hlength _ ih =>
    rw [wellFormed_arr_iff] at hwell
    rw [patternFree_arr_iff] at hfree
    refine .array (Nat.le_of_eq hlength) fun i item item' hitem hitem' => ?_
    have hmem := List.mem_of_getElem? hitem
    exact ih i item item' hitem hitem' (hwell item hmem) (hfree item hmem)
  | @object entries entries' hnames _ ih =>
    obtain ⟨hnodup, hwell⟩ := wellFormed_obj_iff.mp hwell
    obtain ⟨hplain, hfree⟩ := patternFree_obj_iff.mp hfree
    refine (matches_obj_iff hplain).mpr ⟨entries', rfl, fun entry hmem => ?_⟩
    -- The entry of the same name is the one in the same place.
    obtain ⟨i, hi⟩ := List.mem_iff_getElem?.mp hmem
    have hname : (entries'.map Prod.fst)[i]? = some entry.1 := by
      rw [← hnames, List.getElem?_map, hi, Option.map_some]
    obtain ⟨entry', hi', hsame⟩ := Option.map_eq_some_iff.mp (List.getElem?_map.symm.trans hname)
    have hfound : get? entries' entry.1 = some entry'.2 := by
      rw [get?_eq_some_iff (hnames ▸ hnodup), ← hsame]
      exact List.mem_of_getElem? hi'
    exact ⟨entry'.2, hfound, ih i entry entry' hi hi' (hwell entry hmem) (hfree entry hmem)⟩

end Json

/-! ### Lists that are related item by item -/

section Lists

variable {α β γ : Type*} {as : List α} {bs : List β}

theorem forall₂_iff_getElem? {r : α → β → Prop} :
    List.Forall₂ r as bs ↔ as.length = bs.length ∧
      ∀ (i : Nat) a b, as[i]? = some a → bs[i]? = some b → r a b := by
  rw [List.forall₂_iff_get]
  refine and_congr_right fun _ => ⟨fun h i a b ha hb => ?_, fun h i ha hb => ?_⟩
  · obtain ⟨hi, rfl⟩ := List.getElem?_eq_some_iff.mp ha
    obtain ⟨hi', rfl⟩ := List.getElem?_eq_some_iff.mp hb
    exact h i hi hi'
  · exact h i _ _ (List.getElem?_eq_getElem ha) (List.getElem?_eq_getElem hb)

/-- What there is for each pair of items, there is for the lists. -/
theorem exists_forall₂ {r : β → γ → Prop} {s : α → γ → Prop}
    (h : List.Forall₂ (fun a b => ∃ c, r b c ∧ s a c) as bs) :
    ∃ cs, List.Forall₂ r bs cs ∧ List.Forall₂ s as cs := by
  induction h with
  | nil => exact ⟨[], .nil, .nil⟩
  | cons hhead _ ih =>
    obtain ⟨c, hr, hs⟩ := hhead
    obtain ⟨cs, hrs, hss⟩ := ih
    exact ⟨c :: cs, .cons hr hrs, .cons hs hss⟩

/-- Entries can be put in the order of others that have the same names. -/
theorem exists_perm_of_names_perm {entries others : List (String × β)}
    (h : (entries.map Prod.fst).Perm (others.map Prod.fst)) :
    ∃ sorted, sorted.Perm others ∧
      List.Forall₂ (fun entry other => entry.1 = other.1) entries sorted := by
  have hlisted : List.Forall₂ (fun name entry => name = entry.1) (others.map Prod.fst) others :=
    List.forall₂_map_left_iff.mpr (List.forall₂_same.mpr fun _ _ => rfl)
  obtain ⟨sorted, hsorted, hperm⟩ := List.perm_comp_forall₂ h hlisted
  exact ⟨sorted, hperm, List.forall₂_map_left_iff.mp hsorted⟩

theorem map_fst_eq_of_forall₂ {entries others : List (String × β)}
    (h : List.Forall₂ (fun entry other => entry.1 = other.1) entries others) :
    entries.map Prod.fst = others.map Prod.fst := by
  rw [← List.forall₂_eq_eq_eq, List.forall₂_map_left_iff, List.forall₂_map_right_iff]
  exact h

end Lists

open Json (Reordered Eqv)

section Objects

variable {found : List (String × Json)} (h : Matches (.obj entries) (.obj found))
  (hplain : ∀ pattern, entries ≠ [("$regex", .str pattern)])

include h hplain

/-- An object that matches has all names of the expected one. -/
theorem Matches.names_subset : entries.map Prod.fst ⊆ found.map Prod.fst := by
  intro name hname
  obtain ⟨_, ⟨⟩, hentries⟩ := (matches_obj_iff hplain).mp h
  obtain ⟨entry, hmem, rfl⟩ := List.mem_map.mp hname
  obtain ⟨value, hvalue, -⟩ := hentries entry hmem
  exact List.mem_map.mpr ⟨(entry.1, value), mem_of_lookup_eq_some hvalue, rfl⟩

/-- Its entries match those of the same names. -/
theorem Matches.of_entry (hnodup : (found.map Prod.fst).Nodup) {entry other : String × Json}
    (hmem : entry ∈ entries) (hother : other ∈ found) (hname : entry.1 = other.1) :
    Matches entry.2 other.2 := by
  obtain ⟨_, ⟨⟩, hentries⟩ := (matches_obj_iff hplain).mp h
  obtain ⟨value, hvalue, hmatches⟩ := hentries entry hmem
  have hsame : Json.get? found entry.1 = some other.2 := by
    rw [hname, Json.get?_eq_some_iff hnodup]
    exact hother
  rwa [← Option.some.inj (hvalue.symm.trans hsame)]

end Objects

/-- Objects that match one another have the same names. -/
theorem Matches.names_perm {found : List (String × Json)} (h : Matches (.obj entries) (.obj found))
    (h' : Matches (.obj found) (.obj entries))
    (hplain : ∀ pattern, entries ≠ [("$regex", .str pattern)])
    (hplain' : ∀ pattern, found ≠ [("$regex", .str pattern)])
    (hnodup : (entries.map Prod.fst).Nodup) (hnodup' : (found.map Prod.fst).Nodup) :
    (entries.map Prod.fst).Perm (found.map Prod.fst) := by
  refine (List.perm_ext_iff_of_nodup hnodup hnodup').mpr fun name => ?_
  exact ⟨fun hname => h.names_subset hplain hname, fun hname => h'.names_subset hplain' hname⟩

/-! ### Containers that are equal after a reordering -/

/-- Arrays are equal after a reordering if their items are. -/
theorem exists_eqv_arr {found : List Json}
    (h : List.Forall₂ (fun item other => ∃ reordered, Reordered other reordered ∧
      Eqv item reordered) items found) :
    ∃ reordered, Reordered (.arr found) reordered ∧ Eqv (.arr items) reordered := by
  obtain ⟨reordered, hreordered, heqv⟩ := exists_forall₂ h
  obtain ⟨hlength, hitems⟩ := forall₂_iff_getElem?.mp heqv
  exact ⟨.arr reordered, .arr hreordered, .array hlength hitems⟩

/-- Objects are equal after a reordering if their values are, in one order of the entries. -/
theorem exists_eqv_obj {found sorted : List (String × Json)} (hperm : sorted.Perm found)
    (h : List.Forall₂ (fun entry other => entry.1 = other.1 ∧ ∃ reordered,
      Reordered other.2 reordered ∧ Eqv entry.2 reordered) entries sorted) :
    ∃ reordered, Reordered (.obj found) reordered ∧ Eqv (.obj entries) reordered := by
  have hpairs : List.Forall₂ (fun entry other => ∃ entry' : String × Json,
      (other.1 = entry'.1 ∧ Reordered other.2 entry'.2) ∧
        entry.1 = entry'.1 ∧ Eqv entry.2 entry'.2) entries sorted := by
    refine h.imp fun entry other hsame => ?_
    obtain ⟨hname, reordered, hreordered, heqv⟩ := hsame
    exact ⟨(entry.1, reordered), ⟨hname.symm, hreordered⟩, rfl, heqv⟩
  obtain ⟨reordered, hreordered, heqv⟩ := exists_forall₂ hpairs
  have hnames := map_fst_eq_of_forall₂ (heqv.imp fun _ _ h => h.1)
  have hvalues := (forall₂_iff_getElem?.mp heqv).2
  have hmoved : Reordered (.obj found) (.obj sorted) := .single (.here hperm.symm)
  refine ⟨.obj reordered, hmoved.trans (Reordered.obj hreordered), .object hnames ?_⟩
  exact fun i entry entry' hentry hentry' => (hvalues i entry entry' hentry hentry').2

/-- A value that matches and is matched is equal after a reordering. -/
theorem exists_eqv_of_matches (hvalue : value.WellFormed) (hvalue' : value'.WellFormed)
    (hfree : value.PatternFree) (hfree' : value'.PatternFree) (h : Matches value value')
    (h' : Matches value' value) :
    ∃ reordered, Reordered value' reordered ∧ Eqv value reordered := by
  induction value using Json.induction generalizing value' with
  | null =>
    obtain rfl := matches_null_iff.mp h
    exact ⟨_, .refl, .null⟩
  | bool b =>
    obtain rfl := matches_bool_iff.mp h
    exact ⟨_, .refl, .bool b⟩
  | num n =>
    obtain ⟨found, rfl, heqv⟩ := matches_num_iff.mp h
    exact ⟨_, .refl, .num heqv⟩
  | str s =>
    obtain rfl := matches_str_iff.mp h
    exact ⟨_, .refl, .str s⟩
  | arr items ih =>
    obtain ⟨found, rfl, hlength, hitems⟩ := matches_arr_iff.mp h
    obtain ⟨_, ⟨⟩, hlength', hitems'⟩ := matches_arr_iff.mp h'
    rw [Json.wellFormed_arr_iff] at hvalue hvalue'
    rw [Json.patternFree_arr_iff] at hfree hfree'
    refine exists_eqv_arr (forall₂_iff_getElem?.mpr ⟨Nat.le_antisymm hlength hlength', ?_⟩)
    intro i item other hitem hother
    have hmem := List.mem_of_getElem? hitem
    have hmem' := List.mem_of_getElem? hother
    exact ih item hmem (hvalue item hmem) (hvalue' other hmem') (hfree item hmem)
      (hfree' other hmem') (hitems i item other hitem hother) (hitems' i other item hother hitem)
  | obj entries ih =>
    obtain ⟨hplain, hfree⟩ := Json.patternFree_obj_iff.mp hfree
    obtain ⟨hnodup, hwell⟩ := Json.wellFormed_obj_iff.mp hvalue
    obtain ⟨found, rfl, -⟩ := (matches_obj_iff hplain).mp h
    obtain ⟨hplain', hfree'⟩ := Json.patternFree_obj_iff.mp hfree'
    obtain ⟨hnodup', hwell'⟩ := Json.wellFormed_obj_iff.mp hvalue'
    -- Both have the same names, so the other entries can be put in the order of these ones.
    obtain ⟨sorted, hperm, hsorted⟩ :=
      exists_perm_of_names_perm (h.names_perm h' hplain hplain' hnodup hnodup')
    obtain ⟨hlength, hnames⟩ := forall₂_iff_getElem?.mp hsorted
    refine exists_eqv_obj hperm (forall₂_iff_getElem?.mpr ⟨hlength, ?_⟩)
    intro i entry other hentry hother
    have hmem := List.mem_of_getElem? hentry
    have hmem' := hperm.mem_iff.mp (List.mem_of_getElem? hother)
    have hname := hnames i entry other hentry hother
    exact ⟨hname, ih entry hmem (hwell entry hmem) (hwell' other hmem') (hfree entry hmem)
      (hfree' other hmem') (h.of_entry hplain hnodup' hmem hmem' hname)
      (h'.of_entry hplain' hnodup hmem' hmem hname.symm)⟩

/-- **Mutual matching is equality.** A value without patterns inside of it matches itself. Two such
values match one another if and only if, with the entries of the second one in another order, they
differ only in numbers that are numerically equal. -/
theorem mutual_matching_is_equality {value : Json} (hvalue : value.WellFormed)
    (hfree : value.PatternFree) :
    Predicate.value.check value value = .ok () ∧
    ∀ other : Json, other.WellFormed → other.PatternFree →
      (Predicate.value.check value other = .ok () ∧ Predicate.value.check other value = .ok () ↔
        ∃ reordered, Reordered other reordered ∧ Eqv value reordered) := by
  simp only [Predicate.check_value_eq_ok_iff]
  refine ⟨(Eqv.refl value).matches hvalue hfree, fun other hother hfree' => ⟨?_, ?_⟩⟩
  · rintro ⟨h, h'⟩
    exact exists_eqv_of_matches hvalue hother hfree hfree' h h'
  · rintro ⟨reordered, hreordered, heqv⟩
    -- The reordered value matches and is matched, and matching does not depend on the order.
    have hwell := hreordered.wellFormed hother
    have hplain := (Json.PatternFree.stable.iff_of_reordered hother hreordered).mp hfree'
    have h := (Matches.stable_actual value).iff_of_reordered hother hreordered
    have h' := (Matches.stable_expected value).iff_of_reordered hother hreordered
    exact ⟨h.mpr (heqv.matches hvalue hfree), h'.mpr (heqv.symm.matches hwell hplain)⟩

/-- The two prices are numerically equal, and the object with `$regex` is no pattern, as it has a
second entry. -/
theorem mutual_matching_is_equality_of_prices :
    let one : Json := .num (.float ⟨false, ⟨1023, by decide⟩, ⟨0, by decide⟩⟩)
    let value : Json :=
      .obj [("price", one), ("rules", .arr [.obj [("$regex", .str "a+"), ("id", .null)]])]
    let other : Json :=
      .obj [("rules", .arr [.obj [("id", .null), ("$regex", .str "a+")]]), ("price", .int 1)]
    value.WellFormed ∧ value.PatternFree ∧ other.WellFormed ∧ other.PatternFree ∧
      Predicate.value.check value value = .ok () ∧
      Predicate.value.check value other = .ok () ∧ Predicate.value.check other value = .ok () ∧
      ∃ reordered, Reordered other reordered ∧ Eqv value reordered := by
  intro one value other
  have hscalars : one.PatternFree ∧ (Json.int 1).PatternFree ∧ (Json.str "a+").PatternFree ∧
      Json.null.PatternFree := by
    refine ⟨?_, ?_, ?_, ?_⟩ <;> exact Json.patternFree_of_not_isContainer id
  have hvalue : value.WellFormed := by
    simp [value, one, Json.WellFormed, Json.WellFormedEntries, Json.WellFormedItems,
      Json.Number.Fits]
  have hother : other.WellFormed := by
    simp [other, Json.int, Json.WellFormed, Json.WellFormedEntries, Json.WellFormedItems,
      Json.Number.Fits]
  have hfree : value.PatternFree := by
    simp [value, Json.patternFree_obj_iff, Json.patternFree_arr_iff, hscalars]
  have hfree' : other.PatternFree := by
    simp [other, Json.patternFree_obj_iff, Json.patternFree_arr_iff, hscalars]
  have hchecks : Predicate.value.check value other = .ok () ∧
      Predicate.value.check other value = .ok () :=
    ⟨isOk_eq_true_iff.mp (by decide +kernel), isOk_eq_true_iff.mp (by decide +kernel)⟩
  obtain ⟨hself, hmutual⟩ := mutual_matching_is_equality hvalue hfree
  exact ⟨hvalue, hfree, hother, hfree', hself, hchecks.1, hchecks.2,
    (hmutual other hother hfree').mp hchecks⟩

end ResponseCheck
