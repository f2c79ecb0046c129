import ResponseCheck.Proofs.Json.Location
import ResponseCheck.Proofs.Matching.Rejection

/-!
# Rejections point at the first mismatch

The message of a rejection names the place of the first mismatch: what is expected there is not met,
and all entries and items that are expected before it are. The value that the rejection points at is
the one at that place, or the object that lacks the key which the place ends with.
-/

namespace ResponseCheck

open Json (StandsBefore)

/-- Whether what is expected at a place is met there. -/
def Predicate.MetAt (predicate : Predicate) (place : Location) (expected actual : Json) : Prop :=
  ∃ asked, expected.at? place = some asked ∧ predicate.Admits asked (actual.at? place)

/-- What a rejection points at: a place where what is expected is the first not to be met. -/
structure FirstMismatch (predicate : Predicate) (expected actual : Json) (place : Location)
    (complaint : Complaint) (element : Json) : Prop where
  isExpected : ∃ asked, expected.at? place = some asked
  not_metAt : ¬ predicate.MetAt place expected actual
  /-- The value that is pointed at stands there. -/
  at_eq : complaint ≠ .missingKey → actual.at? place = some element
  /-- The value that is pointed at lacks the key that the place ends with. -/
  missing : complaint = .missingKey → ∃ front name found, place = front ++ [.key name] ∧
    element = .obj found ∧ actual.at? front = some element ∧ Json.get? found name = none
  /-- Siblings that are expected before the place, or before one that it is below of, are met. -/
  metAt_before : ∀ front step back container sibling, place = front ++ step :: back →
    expected.at? front = some container → StandsBefore sibling step container →
      predicate.MetAt (front ++ [sibling]) expected actual

section

variable {predicate : Predicate} {expected actual asked value element : Json} {step : Step}
  {place : Location} {complaint : Complaint}

theorem Predicate.metAt_cons_iff (hasked : expected.under? step = some asked)
    (hvalue : actual.under? step = some value) :
    predicate.MetAt (step :: place) expected actual ↔ predicate.MetAt place asked value := by
  simp only [MetAt, Json.at?_cons, hasked, hvalue, Option.bind_some]

theorem Predicate.metAt_singleton (hasked : expected.under? step = some asked)
    (hvalue : predicate.Admits asked (actual.under? step)) :
    predicate.MetAt [step] expected actual :=
  ⟨asked, by rw [Json.at?_singleton, hasked], by rwa [Json.at?_singleton]⟩

/-- A value that is refused as it stands is the first mismatch. -/
theorem FirstMismatch.here (hcomplaint : complaint ≠ .missingKey)
    (hrefused : ¬ predicate.Accepts expected actual) :
    FirstMismatch predicate expected actual [] complaint actual where
  isExpected := ⟨_, rfl⟩
  not_metAt := by
    rintro ⟨_, ⟨⟩, haccepts⟩
    exact hrefused haccepts
  at_eq := fun _ => rfl
  missing := fun h => absurd h hcomplaint
  metAt_before := by
    intro front step back container sibling hplace
    simp at hplace

/-- A key that is not there is the first mismatch if siblings before it are met. -/
theorem FirstMismatch.absent {found : List (String × Json)} {name : String}
    (hasked : expected.under? (.key name) = some asked) (hnone : Json.get? found name = none)
    (hrefused : ¬ predicate.Admits asked none)
    (hbefore : ∀ sibling, StandsBefore sibling (.key name) expected →
      predicate.MetAt [sibling] expected (.obj found)) :
    FirstMismatch predicate expected (.obj found) [.key name] .missingKey (.obj found) where
  isExpected := ⟨asked, by rwa [Json.at?_singleton]⟩
  not_metAt := by
    rintro ⟨part, hpart, hadmits⟩
    rw [Json.at?_singleton] at hpart hadmits
    obtain rfl := Option.some.inj (hasked.symm.trans hpart)
    rw [Json.under?, hnone] at hadmits
    exact hrefused hadmits
  at_eq := fun h => absurd rfl h
  missing := fun _ => ⟨[], name, found, rfl, rfl, rfl, hnone⟩
  metAt_before := by
    intro front step back container sibling hplace hcontainer hsibling
    cases front with
    | nil =>
      obtain ⟨rfl, -⟩ := List.cons.inj hplace
      obtain rfl := Option.some.inj hcontainer
      exact hbefore sibling hsibling
    | cons first front => simp at hplace

/-- The first mismatch of what is under a step is that of the whole, if siblings before it are
met. -/
theorem FirstMismatch.cons (hasked : expected.under? step = some asked)
    (hvalue : actual.under? step = some value)
    (hbefore : ∀ sibling, StandsBefore sibling step expected →
      predicate.MetAt [sibling] expected actual)
    (h : FirstMismatch predicate asked value place complaint element) :
    FirstMismatch predicate expected actual (step :: place) complaint element where
  isExpected := by
    obtain ⟨part, hpart⟩ := h.isExpected
    exact ⟨part, by rw [Json.at?_cons, hasked, Option.bind_some, hpart]⟩
  not_metAt := by
    rw [Predicate.metAt_cons_iff hasked hvalue]
    exact h.not_metAt
  at_eq := by
    intro hcomplaint
    rw [Json.at?_cons, hvalue, Option.bind_some, h.at_eq hcomplaint]
  missing := by
    intro hcomplaint
    obtain ⟨front, name, found, rfl, rfl, hfront, hnone⟩ := h.missing hcomplaint
    refine ⟨step :: front, name, found, rfl, rfl, ?_, hnone⟩
    rw [Json.at?_cons, hvalue, Option.bind_some, hfront]
  metAt_before := by
    intro front other back container sibling hplace hcontainer hsibling
    -- The sibling stands before the step itself, or before one that comes after it.
    cases front with
    | nil =>
      obtain ⟨rfl, -⟩ := List.cons.inj hplace
      obtain rfl := Option.some.inj hcontainer
      exact hbefore sibling hsibling
    | cons first front =>
      obtain ⟨rfl, rfl⟩ := List.cons.inj hplace
      rw [Json.at?_cons, hasked, Option.bind_some] at hcontainer
      rw [List.cons_append, Predicate.metAt_cons_iff hasked hvalue]
      exact h.metAt_before front other back container sibling rfl hcontainer hsibling

end

namespace Predicate

variable {predicate : Predicate} {before after found : List (String × Json)} {name : String}
  {asked : Json}

theorem metAt_of_standsBefore_key (hwf : (Json.obj (before ++ (name, asked) :: after)).WellFormed)
    (hbefore : ∀ entry ∈ before, predicate.Admits entry.2 (Json.get? found entry.1))
    {sibling : Step}
    (hsibling : StandsBefore sibling (.key name) (.obj (before ++ (name, asked) :: after))) :
    predicate.MetAt [sibling] (.obj (before ++ (name, asked) :: after)) (.obj found) := by
  obtain ⟨entry, hmem, rfl⟩ := Json.exists_mem_of_standsBefore_key hwf hsibling
  exact metAt_singleton (Json.get?_of_mem hwf (List.mem_append_left _ hmem)) (hbefore entry hmem)

/-- Where a value is refused, the first mismatch is. -/
theorem RefusedAt.firstMismatch {expected actual element : Json} {place : Location}
    {complaint : Complaint} (h : predicate.RefusedAt expected actual place complaint element)
    (hwf : expected.WellFormed) :
    FirstMismatch predicate expected actual place complaint element := by
  -- The expected value does not repeat a name, so an entry is the one found under its name.
  induction h with
  | here hcomplaint hrefused => exact .here hcomplaint hrefused
  | @absent before after found name asked hbefore hnone hrefused =>
    have hasked := Json.get?_of_mem hwf (List.mem_append_right before List.mem_cons_self)
    refine .absent hasked hnone hrefused fun sibling hsibling => ?_
    exact metAt_of_standsBefore_key hwf hbefore hsibling
  | @entry before after found name asked actual place complaint element hbefore hfound _ ih =>
    have hmem : (name, asked) ∈ before ++ (name, asked) :: after :=
      List.mem_append_right before List.mem_cons_self
    refine .cons (Json.get?_of_mem hwf hmem) hfound ?_ (ih ?_)
    · exact fun sibling hsibling => metAt_of_standsBefore_key hwf hbefore hsibling
    · exact (Json.wellFormed_obj_iff.mp hwf).2 _ hmem
  | @item items found i asked actual place complaint element hbefore hasked hfound _ ih =>
    refine .cons hasked hfound ?_ (ih ?_)
    · rintro _ ⟨⟩
      next j hj =>
      have hi : i < items.length := (List.getElem?_eq_some_iff.mp hasked).1
      have hitem : items[j]? = some items[j] := List.getElem?_eq_getElem (Nat.lt_trans hj hi)
      exact metAt_singleton hitem (hbefore j hj _ hitem)
    · exact Json.wellFormed_arr_iff.mp hwf asked (List.mem_of_getElem? hasked)

end Predicate

/-! ### Messages -/

/-- What the message of a complaint about a value says before and after the place. -/
def Complaint.words (element : Json) : Complaint → String × String
  | .invalidPattern pattern error => (s!"invalid regex `{pattern}` at ", s!": {error.message}")
  | .unmatched pattern => (s!"expected {element} at ", s!" to match /{pattern}/")
  | .missingKey => ("expected key `", "` to be present")
  | .tooFew expected actual => (s!"expected at least {expected} elements at ", s!", got {actual}")
  | .differs expected => (s!"expected {expected} at ", s!", got {element}")
  | .unknownType name => (s!"unknown type `{name}` at ", "")
  | .wrongType spec => ("expected ", s!" to be of type {spec.text}, got {element.typeName}")
  | .notObject => ("expected ", s!" to be an object, got {element.typeName}")
  | .unsupportedType expected => (s!"unsupported type expectation {expected} at ", "")

/-- The message of a rejection names its place, between words that do not depend on it. -/
theorem Rejection.message_eq (r : Rejection) :
    r.message = (r.complaint.words r.actual).1 ++ r.location.text ++
      (r.complaint.words r.actual).2 := by
  obtain ⟨complaint, location, element⟩ := r
  unfold message Complaint.words
  cases complaint with
  | unknownType name =>
    -- The text of the error ends inside of the first words of the message.
    have hwords : TypeSpec.unknownMessage name ++ " at " = s!"unknown type `{name}` at " := by
      rw [TypeSpec.unknownMessage, String.append_assoc]
      rfl
    dsimp only
    rw [hwords, String.append_empty]
  | _ => dsimp only; simp only [String.append_assoc, String.append_empty]; rfl

@[simp] theorem Mismatch.message_rejected (r : Rejection) : (rejected r).message = r.message := rfl

/-- **Rejections point at the first mismatch.** Where a check fails, its message names a place, and
what is expected there is the first not to be met. The value that is pointed at is the one at this
place, or else the object that lacks the key at the end of it. Objects do not repeat a name. -/
theorem rejection_points_at_first_mismatch {predicate : Predicate} {expected actual : Json}
    {mismatch : Mismatch} (hwf : expected.WellFormed)
    (h : predicate.check expected actual = .error mismatch) :
    ∃ complaint place element, mismatch = .rejected ⟨complaint, place, element⟩ ∧
      mismatch.message =
        (complaint.words element).1 ++ ("$" ++ String.join (place.map Step.text)) ++
          (complaint.words element).2 ∧
      mismatch.element? = some element ∧
      FirstMismatch predicate expected actual place complaint element := by
  rw [Predicate.check_eq_mapError] at h
  obtain ⟨⟨complaint, place, element⟩, hrejected, rfl⟩ := Except.mapError_eq_error_iff.mp h
  obtain ⟨_, rfl, hrefused⟩ := Predicate.refusedBelow_of_checkAt_eq_error hrejected
  refine ⟨complaint, place, element, rfl, ?_, rfl, hrefused.firstMismatch hwf⟩
  rw [Mismatch.message_rejected, Rejection.message_eq, Location.text]

/-- Below the second of two items a key is missing. The entries before that key are met, and what
comes after it is not looked at. -/
theorem rejection_points_at_first_mismatch_of_items :
    let first : Json := .obj [("id", .int 1)]
    let second : Json := .obj [("tag", .null), ("id", .int 2)]
    let expected : Json :=
      .obj [("items", .arr [first, .obj [("id", .int 2), ("name", .str "b"), ("tag", .int 0)]])]
    let actual : Json := .obj [("page", .int 1), ("items", .arr [first, second])]
    let place : Location := [.key "items", .index 1, .key "name"]
    expected.WellFormed ∧
      Predicate.value.check expected actual = .error (.rejected ⟨.missingKey, place, second⟩) ∧
      (Mismatch.rejected ⟨.missingKey, place, second⟩).message =
        "expected key `" ++ "$.items[1].name" ++ "` to be present" ∧
      FirstMismatch .value expected actual place .missingKey second := by
  intro first second expected actual place
  have hwf : expected.WellFormed := by
    simp [expected, first, Json.WellFormed, Json.WellFormedItems, Json.WellFormedEntries, Json.int,
      Json.Number.Fits]
  have hcheck : Predicate.value.check expected actual =
      .error (.rejected ⟨.missingKey, place, second⟩) := rfl
  obtain ⟨_, _, _, ⟨⟩, hmessage, -, hfirst⟩ := rejection_points_at_first_mismatch hwf hcheck
  exact ⟨hwf, hcheck, hmessage, hfirst⟩

end ResponseCheck
