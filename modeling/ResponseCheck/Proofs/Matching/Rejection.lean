import ResponseCheck.Proofs.Expectation

/-!
# How predicates refuse values

A value is refused as it stands, or for a part of it. Entries and items are looked at in the order
in which they are expected, so the part is the first one that is refused, or the first key that is
not there and should be.
-/

namespace ResponseCheck

/-! ### One value -/

namespace Json

variable {location : Location} {expected actual : Json} {rejection : Rejection}

/-- A value is refused as it stands, or for one of its entries or items. -/
theorem matchValue_eq_error (h : matchValue location expected actual = .error rejection) :
    (rejection.location = location ∧ rejection.actual = actual ∧
      rejection.complaint ≠ .missingKey) ∨
    (∃ entries found, expected = .obj entries ∧ actual = .obj found ∧
      matchEntries location entries found = .error rejection) ∨
    ∃ items found, expected = .arr items ∧ actual = .arr found ∧ items.length ≤ found.length ∧
      matchItems location 0 items found = .error rejection := by
  unfold matchValue at h
  split at h
  · unfold matchPattern at h
    split at h
    · cases h
      exact .inl ⟨rfl, rfl, by simp⟩
    · split at h
      · split at h <;> cases h
        exact .inl ⟨rfl, rfl, by simp⟩
      · cases h
        exact .inl ⟨rfl, rfl, by simp⟩
  · split at h
    · exact .inr (.inl ⟨_, _, rfl, rfl, h⟩)
    · split at h
      · cases h
        exact .inl ⟨rfl, rfl, by simp⟩
      · next hlength => exact .inr (.inr ⟨_, _, rfl, rfl, Nat.le_of_not_lt hlength, h⟩)
    · split at h <;> cases h
      exact .inl ⟨rfl, rfl, by simp⟩

/-- A value is refused as it stands, or for one of its entries. -/
theorem matchType_eq_error (h : matchType location expected actual = .error rejection) :
    (rejection.location = location ∧ rejection.actual = actual ∧
      rejection.complaint ≠ .missingKey) ∨
    ∃ entries found, expected = .obj entries ∧ actual = .obj found ∧
      matchTypes location entries found = .error rejection := by
  unfold matchType at h
  split at h
  · split at h
    · cases h
      exact .inl ⟨rfl, rfl, by simp⟩
    · split at h <;> cases h
      exact .inl ⟨rfl, rfl, by simp⟩
  · split at h
    · exact .inr ⟨_, _, rfl, rfl, h⟩
    · cases h
      exact .inl ⟨rfl, rfl, by simp⟩
  · cases h
    exact .inl ⟨rfl, rfl, by simp⟩

theorem matchItems_eq_error {index : Nat} {expected found : List Json}
    (h : matchItems location index expected found = .error rejection) :
    ∃ i asked value, expected[i]? = some asked ∧ found[i]? = some value ∧
      matchValue (location ++ [.index (index + i)]) asked value = .error rejection ∧
      ∀ j < i, ∀ asked value, expected[j]? = some asked → found[j]? = some value →
        matchValue (location ++ [.index (index + j)]) asked value = .ok () := by
  induction expected generalizing index found with
  | nil => cases h
  | cons first rest ih =>
    cases found with
    | nil => cases h
    | cons value values =>
      rw [matchItems] at h
      rcases Except.bind_eq_error_iff.mp h with hfirst | ⟨⟨⟩, hok, hrest⟩
      · exact ⟨0, first, value, rfl, rfl, hfirst, fun j hj => absurd hj (Nat.not_lt_zero j)⟩
      · -- The indices of the others are those in the rest, one higher.
        obtain ⟨i, asked, other, hasked, hother, hrefused, hbefore⟩ := ih hrest
        refine ⟨i + 1, asked, other, hasked, hother, ?_, ?_⟩
        · rwa [← Nat.add_assoc, Nat.add_right_comm]
        · intro j hj asked other hasked hother
          cases j with
          | zero =>
            cases hasked
            cases hother
            exact hok
          | succ j =>
            have hnext := hbefore j (Nat.lt_of_succ_lt_succ hj) asked other hasked hother
            rwa [← Nat.add_assoc, Nat.add_right_comm]

end Json

namespace Predicate

/-- Checks a value at a location. -/
def checkAt : Predicate → Location → Json → Json → Except Rejection Unit
  | .value => Json.matchValue
  | .type => Json.matchType

/-- Whether nothing may stand where something is expected. -/
def admitsAbsence : Predicate → Json → Bool
  | .value, _ => false
  | .type, expected => expected.admitsAbsence

/-- Checks what an object has under the name of an expected entry. -/
def checkEntry (predicate : Predicate) (location : Location) (found : List (String × Json))
    (entry : String × Json) : Except Rejection Unit :=
  match Json.get? found entry.1 with
  | some actual => predicate.checkAt (location ++ [.key entry.1]) entry.2 actual
  | none =>
    if predicate.admitsAbsence entry.2 then .ok ()
    else .error ⟨.missingKey, location ++ [.key entry.1], .obj found⟩

/-- What may stand where something is expected, nothing included. -/
def Admits : Predicate → Json → Option Json → Prop
  | predicate, expected, some actual => predicate.Accepts expected actual
  | .value, _, none => False
  | .type, expected, none => AdmitsAbsence expected

variable {predicate : Predicate} {location : Location} {expected actual : Json}
  {entries found : List (String × Json)} {entry : String × Json} {rejection : Rejection}

theorem check_eq_mapError (predicate : Predicate) (expected actual : Json) :
    predicate.check expected actual =
      (predicate.checkAt [] expected actual).mapError .rejected := by
  cases predicate <;> rfl

theorem checkAt_eq_ok_iff :
    predicate.checkAt location expected actual = .ok () ↔ predicate.Accepts expected actual := by
  cases predicate with
  | value => exact Json.matchValue_eq_ok_iff
  | type => exact Json.matchType_eq_ok_iff

theorem admitsAbsence_iff :
    predicate.admitsAbsence expected = true ↔ predicate.Admits expected none := by
  cases predicate with
  | value => exact iff_of_false Bool.false_ne_true id
  | type => exact Json.admitsAbsence_iff

theorem checkEntry_eq_ok_iff :
    predicate.checkEntry location found entry = .ok () ↔
      predicate.Admits entry.2 (Json.get? found entry.1) := by
  unfold checkEntry
  cases Json.get? found entry.1 with
  | some actual => exact checkAt_eq_ok_iff
  | none => rw [← admitsAbsence_iff, Except.ite_eq_ok_iff]

theorem matchEntries_eq_forM :
    Json.matchEntries location entries found = forM entries (value.checkEntry location found) := by
  induction entries with
  | nil => rfl
  | cons entry rest ih =>
    rw [Json.matchEntries, List.forM_cons, ih, checkEntry]
    cases Json.get? found entry.1 <;> rfl

theorem matchTypes_eq_forM :
    Json.matchTypes location entries found = forM entries (type.checkEntry location found) := by
  induction entries with
  | nil => rfl
  | cons entry rest ih =>
    rw [Json.matchTypes, List.forM_cons, ih, checkEntry, admitsAbsence]
    cases Json.get? found entry.1 with
    | some actual => rfl
    | none => cases entry.2.admitsAbsence <;> rfl

/-! ### How a value comes to be refused -/

/-- How a value comes to be refused: the steps to what is refused, the complaint, and the value that
is pointed at. -/
inductive RefusedAt (predicate : Predicate) : Json → Json → Location → Complaint → Json → Prop
  /-- The value is refused as it stands. -/
  | here {expected actual : Json} {complaint : Complaint} (hcomplaint : complaint ≠ .missingKey)
      (hrefused : ¬ predicate.Accepts expected actual) :
      RefusedAt predicate expected actual [] complaint actual
  /-- A key is not there, and all entries in front of it are as they should be. -/
  | absent {before after found : List (String × Json)} {name : String} {asked : Json}
      (hbefore : ∀ entry ∈ before, predicate.Admits entry.2 (Json.get? found entry.1))
      (hnone : Json.get? found name = none) (hrefused : ¬ predicate.Admits asked none) :
      RefusedAt predicate (.obj (before ++ (name, asked) :: after)) (.obj found) [.key name]
        .missingKey (.obj found)
  /-- An entry is refused, and all entries in front of it are as they should be. -/
  | entry {before after found : List (String × Json)} {name : String} {asked actual : Json}
      {steps : Location} {complaint : Complaint} {element : Json}
      (hbefore : ∀ entry ∈ before, predicate.Admits entry.2 (Json.get? found entry.1))
      (hfound : Json.get? found name = some actual)
      (h : RefusedAt predicate asked actual steps complaint element) :
      RefusedAt predicate (.obj (before ++ (name, asked) :: after)) (.obj found)
        (.key name :: steps) complaint element
  /-- An item is refused, and all items in front of it are as they should be. -/
  | item {items found : List Json} {i : Nat} {asked actual : Json} {steps : Location}
      {complaint : Complaint} {element : Json}
      (hbefore : ∀ j < i, ∀ asked, items[j]? = some asked → predicate.Admits asked found[j]?)
      (hasked : items[i]? = some asked) (hfound : found[i]? = some actual)
      (h : RefusedAt predicate asked actual steps complaint element) :
      RefusedAt predicate (.arr items) (.arr found) (.index i :: steps) complaint element

/-- The rejections of a value at a location that say how it came to be refused. -/
def RefusedBelow (predicate : Predicate) (location : Location) (expected actual : Json)
    (rejection : Rejection) : Prop :=
  ∃ steps, rejection.location = location ++ steps ∧
    predicate.RefusedAt expected actual steps rejection.complaint rejection.actual

theorem refusedBelow_of_forM_eq_error
    (hentries : forM entries (predicate.checkEntry location found) = .error rejection)
    (ih : ∀ entry ∈ entries, ∀ {location actual rejection},
      predicate.checkAt location entry.2 actual = .error rejection →
        predicate.RefusedBelow location entry.2 actual rejection) :
    predicate.RefusedBelow location (.obj entries) (.obj found) rejection := by
  obtain ⟨before, ⟨name, asked⟩, after, rfl, hok, hrefused⟩ := Except.forM_eq_error_iff.mp hentries
  have hbefore : ∀ entry ∈ before, predicate.Admits entry.2 (Json.get? found entry.1) :=
    fun entry hmem => checkEntry_eq_ok_iff.mp (hok entry hmem)
  unfold checkEntry at hrefused
  cases hfound : Json.get? found name with
  | none =>
    simp only [hfound] at hrefused
    split at hrefused
    · cases hrefused
    · next habsence =>
      cases hrefused
      refine ⟨[.key name], rfl, .absent hbefore hfound ?_⟩
      rwa [admitsAbsence_iff] at habsence
  | some actual =>
    simp only [hfound] at hrefused
    obtain ⟨steps, hsteps, hbelow⟩ :=
      ih (name, asked) (List.mem_append_right _ List.mem_cons_self) hrefused
    refine ⟨.key name :: steps, ?_, .entry hbefore hfound hbelow⟩
    rw [hsteps, List.append_assoc]
    rfl

theorem checkAt_eq_error (h : predicate.checkAt location expected actual = .error rejection) :
    (rejection.location = location ∧ rejection.actual = actual ∧
      rejection.complaint ≠ .missingKey) ∨
    (∃ entries found, expected = .obj entries ∧ actual = .obj found ∧
      forM entries (predicate.checkEntry location found) = .error rejection) ∨
    ∃ items found, predicate = .value ∧ expected = .arr items ∧ actual = .arr found ∧
      items.length ≤ found.length ∧ Json.matchItems location 0 items found = .error rejection := by
  cases predicate with
  | value =>
    rcases Json.matchValue_eq_error h with hhere | ⟨entries, found, rfl, rfl, hentries⟩ | hitems
    · exact .inl hhere
    · exact .inr (.inl ⟨entries, found, rfl, rfl, matchEntries_eq_forM.symm.trans hentries⟩)
    · obtain ⟨items, found, rfl, rfl, hlength, hitems⟩ := hitems
      exact .inr (.inr ⟨items, found, rfl, rfl, rfl, hlength, hitems⟩)
  | type =>
    rcases Json.matchType_eq_error h with hhere | ⟨entries, found, rfl, rfl, hentries⟩
    · exact .inl hhere
    · exact .inr (.inl ⟨entries, found, rfl, rfl, matchTypes_eq_forM.symm.trans hentries⟩)

theorem refusedBelow_here (h : predicate.checkAt location expected actual = .error rejection)
    (hlocation : rejection.location = location) (hactual : rejection.actual = actual)
    (hcomplaint : rejection.complaint ≠ .missingKey) :
    predicate.RefusedBelow location expected actual rejection := by
  have hrefused : ¬ predicate.Accepts expected actual := by
    intro haccepts
    cases h.symm.trans (checkAt_eq_ok_iff.mpr haccepts)
  refine ⟨[], by rw [hlocation, List.append_nil], ?_⟩
  rw [hactual]
  exact .here hcomplaint hrefused

theorem refusedBelow_of_matchItems_eq_error {items found : List Json}
    (hitems : Json.matchItems location 0 items found = .error rejection)
    (ih : ∀ item ∈ items, ∀ {location actual rejection},
      Json.matchValue location item actual = .error rejection →
        value.RefusedBelow location item actual rejection) :
    value.RefusedBelow location (.arr items) (.arr found) rejection := by
  obtain ⟨i, asked, actual, hasked, hactual, hrefused, hok⟩ := Json.matchItems_eq_error hitems
  have hbefore : ∀ j < i, ∀ asked, items[j]? = some asked →
      value.Admits asked found[j]? := by
    intro j hj asked hasked
    have hi : i < found.length := (List.getElem?_eq_some_iff.mp hactual).1
    have hfound : found[j]? = some found[j] := List.getElem?_eq_getElem (Nat.lt_trans hj hi)
    rw [hfound]
    exact Json.matchValue_eq_ok_iff.mp (hok j hj asked _ hasked hfound)
  obtain ⟨steps, hsteps, hbelow⟩ := ih asked (List.mem_of_getElem? hasked) hrefused
  refine ⟨.index i :: steps, ?_, .item hbefore hasked hactual hbelow⟩
  rw [hsteps, List.append_assoc, Nat.zero_add]
  rfl

/-- Each rejection came about in one of these ways, below the location of the check. -/
theorem refusedBelow_of_checkAt_eq_error
    (h : predicate.checkAt location expected actual = .error rejection) :
    predicate.RefusedBelow location expected actual rejection := by
  -- The check recurses on what is expected, and the location grows on the way.
  induction expected using Json.induction generalizing location actual rejection with
  | obj entries ih =>
    rcases checkAt_eq_error h with hhere | ⟨_, found, ⟨⟩, rfl, hentries⟩ | ⟨_, _, _, ⟨⟩, _⟩
    · exact refusedBelow_here h hhere.1 hhere.2.1 hhere.2.2
    · exact refusedBelow_of_forM_eq_error hentries fun entry hmem => ih entry hmem
  | arr items ih =>
    rcases checkAt_eq_error h with hhere | ⟨_, _, ⟨⟩, _⟩ | ⟨_, found, rfl, ⟨⟩, rfl, -, hitems⟩
    · exact refusedBelow_here h hhere.1 hhere.2.1 hhere.2.2
    · exact refusedBelow_of_matchItems_eq_error hitems fun item hmem => ih item hmem
  | null | bool | num | str =>
    rcases checkAt_eq_error h with hhere | ⟨_, _, ⟨⟩, _⟩ | ⟨_, _, _, ⟨⟩, _⟩
    exact refusedBelow_here h hhere.1 hhere.2.1 hhere.2.2

end Predicate

end ResponseCheck
