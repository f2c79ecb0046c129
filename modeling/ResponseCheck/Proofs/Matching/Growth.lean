import ResponseCheck.Proofs.Lookup
import ResponseCheck.Proofs.Matching.Value
import ResponseCheck.Proofs.Resolution.Basic

/-!
# Matching values that grow

A value grows when its objects get more entries and its arrays more items at their ends, at any
depth, and all else in it stays as it is. What matches an expected value still does after it has
grown: an expected value asks for what it names, and never for what it does not.
-/

namespace ResponseCheck

namespace Json

/-- A value grows into one that has all its entries and items, grown as well, and maybe more. The
entries may stand anywhere, and new items stand at the end. -/
inductive GrowsInto : Json → Json → Prop
  | null : GrowsInto .null .null
  | bool (b : Bool) : GrowsInto (.bool b) (.bool b)
  | num (n : Number) : GrowsInto (.num n) (.num n)
  | str (s : String) : GrowsInto (.str s) (.str s)
  | array {items grown : List Json} (hlength : items.length ≤ grown.length)
      (hitems : ∀ (i : Nat) item value, items[i]? = some item → grown[i]? = some value →
        GrowsInto item value) :
      GrowsInto (.arr items) (.arr grown)
  | object {entries grown : List (String × Json)}
      (hpresent : ∀ entry ∈ entries, ∃ value, get? grown entry.1 = some value)
      (hvalues : ∀ entry ∈ entries, ∀ value, get? grown entry.1 = some value →
        GrowsInto entry.2 value) :
      GrowsInto (.obj entries) (.obj grown)

variable {value grown : Json}

theorem GrowsInto.eq_of_not_isContainer (h : GrowsInto value grown) (hvalue : ¬ value.IsContainer) :
    grown = value := by
  cases h with
  | null | bool | num | str => rfl
  | array | object => exact absurd trivial hvalue

theorem growsInto_arr_iff {items : List Json} :
    GrowsInto (.arr items) grown ↔
      ∃ more, grown = .arr more ∧ items.length ≤ more.length ∧
        ∀ (i : Nat) item value, items[i]? = some item → more[i]? = some value →
          GrowsInto item value := by
  constructor
  · rintro ⟨⟩
    exact ⟨_, rfl, ‹_›, ‹_›⟩
  · rintro ⟨more, rfl, hlength, hitems⟩
    exact .array hlength hitems

theorem growsInto_obj_iff {entries : List (String × Json)} :
    GrowsInto (.obj entries) grown ↔
      ∃ more, grown = .obj more ∧ ∀ entry ∈ entries, ∃ value,
        get? more entry.1 = some value ∧ GrowsInto entry.2 value := by
  constructor
  · intro h
    cases h with
    | object hpresent hvalues =>
      refine ⟨_, rfl, fun entry hmem => ?_⟩
      obtain ⟨value, hfound⟩ := hpresent entry hmem
      exact ⟨value, hfound, hvalues entry hmem value hfound⟩
  · rintro ⟨more, rfl, hentries⟩
    refine .object (fun entry hmem => ?_) fun entry hmem value hfound => ?_
    · obtain ⟨value, hfound, -⟩ := hentries entry hmem
      exact ⟨value, hfound⟩
    · obtain ⟨other, hother, hgrows⟩ := hentries entry hmem
      obtain rfl := Option.some.inj (hother.symm.trans hfound)
      exact hgrows

end Json

/-- An expected value describes what a value grows into if it describes the value. -/
theorem Matches.growsInto {expected actual grown : Json} (hmatches : Matches expected actual)
    (hgrows : actual.GrowsInto grown) : Matches expected grown := by
  induction expected using Json.induction generalizing actual grown with
  | null | bool | num | str =>
    have hactual : ¬ actual.IsContainer := by
      cases hmatches
      exact id
    rwa [hgrows.eq_of_not_isContainer hactual]
  | arr items ih =>
    obtain ⟨found, rfl, hlength, hitems⟩ := matches_arr_iff.mp hmatches
    obtain ⟨more, rfl, hmore, hvalues⟩ := Json.growsInto_arr_iff.mp hgrows
    refine .array (Nat.le_trans hlength hmore) fun i item value' hitem hvalue' => ?_
    -- The expected items are in front, where the array had items before.
    have hi : i < found.length :=
      Nat.lt_of_lt_of_le (List.getElem?_eq_some_iff.mp hitem).1 hlength
    have hvalue : found[i]? = some found[i] := List.getElem?_eq_getElem hi
    exact ih item (List.mem_of_getElem? hitem) (hitems i item _ hitem hvalue)
      (hvalues i _ value' hvalue hvalue')
  | obj entries ih =>
    by_cases hplain : ∀ pattern, entries ≠ [("$regex", .str pattern)]
    · obtain ⟨found, rfl, hentries⟩ := (matches_obj_iff hplain).mp hmatches
      obtain ⟨more, rfl, hvalues⟩ := Json.growsInto_obj_iff.mp hgrows
      refine (matches_obj_iff hplain).mpr ⟨more, rfl, fun entry hmem => ?_⟩
      -- A name that is expected was there before, and is there still.
      obtain ⟨value, hvalue, hmatches⟩ := hentries entry hmem
      obtain ⟨value', hvalue', hgrows⟩ :=
        hvalues (entry.1, value) (mem_of_lookup_eq_some hvalue)
      exact ⟨value', hvalue', ih entry hmem hmatches hgrows⟩
    · -- A pattern describes strings, which do not grow.
      simp only [not_forall, not_not] at hplain
      obtain ⟨pattern, rfl⟩ := hplain
      obtain ⟨text, expr, rfl, -⟩ := matches_pattern_iff.mp hmatches
      rwa [hgrows.eq_of_not_isContainer id]

/-- **What has grown still matches.** A value that passes a check against an expected value, with or
without patterns, passes it as well after it has grown. -/
theorem grown_value_still_matches {expected actual grown : Json}
    (hgrows : actual.GrowsInto grown) (hpasses : Predicate.value.check expected actual = .ok ()) :
    Predicate.value.check expected grown = .ok () := by
  rw [Predicate.check_value_eq_ok_iff] at hpasses ⊢
  exact hpasses.growsInto hgrows

/-- An item gets an entry in front of the one that a pattern is for, and the array an item. -/
theorem grown_value_still_matches_of_names :
    let expected : Json :=
      .obj [("names", .arr [.obj [("first", .obj [("$regex", .str "^A")])]])]
    let actual : Json := .obj [("names", .arr [.obj [("first", .str "Ann")]])]
    let grown : Json := .obj [("page", .int 1),
      ("names", .arr [.obj [("id", .null), ("first", .str "Ann")], .str "Bob"])]
    actual.GrowsInto grown ∧ Predicate.value.check expected actual = .ok () ∧
      Predicate.value.check expected grown = .ok () := by
  intro expected actual grown
  have hname : Json.GrowsInto (.obj [("first", .str "Ann")])
      (.obj [("id", .null), ("first", .str "Ann")]) :=
    Json.growsInto_obj_iff.mpr
      ⟨_, rfl, List.forall_mem_singleton.mpr ⟨.str "Ann", rfl, .str "Ann"⟩⟩
  have hnames : Json.GrowsInto (.arr [.obj [("first", .str "Ann")]])
      (.arr [.obj [("id", .null), ("first", .str "Ann")], .str "Bob"]) := by
    refine .array (by decide) fun i item value hitem hvalue => ?_
    obtain ⟨hi, rfl⟩ := List.getElem?_eq_some_iff.mp hitem
    obtain rfl : i = 0 := by simpa using hi
    cases hvalue
    exact hname
  have hgrows : actual.GrowsInto grown :=
    Json.growsInto_obj_iff.mpr ⟨_, rfl, List.forall_mem_singleton.mpr ⟨_, rfl, hnames⟩⟩
  have hpasses : Predicate.value.check expected actual = .ok () := rfl
  exact ⟨hgrows, hpasses, grown_value_still_matches hgrows hpasses⟩

end ResponseCheck
