import ResponseCheck.Expectation
import ResponseCheck.Proofs.Except
import ResponseCheck.Proofs.Json.Basic
import ResponseCheck.Proofs.Json.Entries
import ResponseCheck.Proofs.TypeSpec

/-!
# What it means for a value to conform

An expected type describes values: the text of a specification the values of that type, and an
object of expected types the objects whose entries conform, where an entry may be absent if its type
is a specification that admits null. The check of a type is shown to decide this relation at every
location.
-/

namespace ResponseCheck

/-- The expected types whose key may be absent: specifications with a question mark. -/
def AdmitsAbsence (expected : Json) : Prop :=
  ∃ name spec, expected = .str name ∧ TypeSpec.parse? name = some spec ∧ spec.nullable = true

/-- The actual values that an expected type describes. -/
inductive Conforms : Json → Json → Prop
  /-- The text of a specification describes the values of its type. -/
  | spec {name : String} {spec : TypeSpec} {actual : Json}
      (hparse : TypeSpec.parse? name = some spec) (hvalue : spec.HasValue actual) :
      Conforms (.str name) actual
  /-- An object describes the objects whose entries conform, or are absent where they may be. -/
  | object {expected actual : List (String × Json)}
      (hvalues : ∀ entry ∈ expected, ∀ value, Json.get? actual entry.1 = some value →
        Conforms entry.2 value)
      (habsent : ∀ entry ∈ expected, Json.get? actual entry.1 = none → AdmitsAbsence entry.2) :
      Conforms (.obj expected) (.obj actual)

section

variable {actual : Json}

theorem conforms_str_iff {name : String} :
    Conforms (.str name) actual ↔
      ∃ spec, TypeSpec.parse? name = some spec ∧ spec.HasValue actual := by
  constructor
  · rintro ⟨⟩
    exact ⟨_, ‹_›, ‹_›⟩
  · rintro ⟨spec, hparse, hvalue⟩
    exact .spec hparse hvalue

theorem conforms_obj_iff {entries : List (String × Json)} :
    Conforms (.obj entries) actual ↔
      ∃ found, actual = .obj found ∧ ∀ entry ∈ entries,
        (∃ value, Json.get? found entry.1 = some value ∧ Conforms entry.2 value) ∨
          (Json.get? found entry.1 = none ∧ AdmitsAbsence entry.2) := by
  constructor
  · intro h
    cases h with
    | object hvalues habsent =>
      refine ⟨_, rfl, fun entry hmem => ?_⟩
      cases hfound : Json.get? _ entry.1 with
      | some value => exact .inl ⟨value, rfl, hvalues entry hmem value hfound⟩
      | none => exact .inr ⟨rfl, habsent entry hmem hfound⟩
  · rintro ⟨found, rfl, hentries⟩
    refine .object (fun entry hmem value hfound => ?_) fun entry hmem hnone => ?_
    · obtain ⟨other, hother, hconforms⟩ | ⟨hnone, -⟩ := hentries entry hmem
      · obtain rfl := Option.some.inj (hother.symm.trans hfound)
        exact hconforms
      · cases hnone.symm.trans hfound
    · obtain ⟨other, hother, -⟩ | ⟨-, habsence⟩ := hentries entry hmem
      · cases hnone.symm.trans hother
      · exact habsence

/-- Only texts and objects are types. -/
theorem not_conforms {expected : Json} (hstr : ∀ name, expected ≠ .str name)
    (hobj : ∀ entries, expected ≠ .obj entries) : ¬ Conforms expected actual := by
  rintro ⟨⟩
  · exact hstr _ rfl
  · exact hobj _ rfl

end

namespace Json

variable {location : Location} {expected actual : Json}

theorem admitsAbsence_iff : expected.admitsAbsence = true ↔ AdmitsAbsence expected := by
  cases expected with
  | str name => simp [admitsAbsence, AdmitsAbsence, Option.any_eq_true]
  | null | bool | num | arr | obj => simp [admitsAbsence, AdmitsAbsence]

theorem matchTypes_eq_ok_iff {expected actual : List (String × Json)} :
    matchTypes location expected actual = .ok () ↔
      ∀ entry ∈ expected,
        (∃ value, get? actual entry.1 = some value ∧
          matchType (location ++ [.key entry.1]) entry.2 value = .ok ()) ∨
        (get? actual entry.1 = none ∧ AdmitsAbsence entry.2) := by
  induction expected with
  | nil => simp [matchTypes]
  | cons entry rest ih =>
    obtain ⟨name, expected⟩ := entry
    rw [matchTypes, List.forall_mem_cons, ← ih, ← admitsAbsence_iff]
    cases hfound : get? actual name with
    | some value => simp [Except.bind_unit_eq_ok_iff]
    | none => cases expected.admitsAbsence <;> simp

theorem matchType_str_eq_ok_iff {name : String} :
    matchType location (.str name) actual = .ok () ↔
      ∃ spec, TypeSpec.parse? name = some spec ∧ spec.HasValue actual := by
  rw [matchType]
  cases hparse : TypeSpec.parse? name with
  | none => simp
  | some spec => simp [TypeSpec.accepts_iff]

/-- The check of a type decides whether it describes the value, at every location. -/
theorem matchType_eq_ok_iff :
    matchType location expected actual = .ok () ↔ Conforms expected actual := by
  -- The check recurses on the expected type; the value only has to follow.
  induction expected using Json.induction generalizing location actual with
  | str name => rw [matchType_str_eq_ok_iff, conforms_str_iff]
  | obj entries ih =>
    rw [conforms_obj_iff]
    cases actual with
    | obj found =>
      rw [matchType, matchTypes_eq_ok_iff]
      constructor
      · intro hentries
        refine ⟨found, rfl, fun entry hmem => (hentries entry hmem).imp_left ?_⟩
        rintro ⟨value, hfound, hvalue⟩
        exact ⟨value, hfound, (ih entry hmem).mp hvalue⟩
      · rintro ⟨_, ⟨⟩, hentries⟩ entry hmem
        refine (hentries entry hmem).imp_left ?_
        rintro ⟨value, hfound, hvalue⟩
        exact ⟨value, hfound, (ih entry hmem).mpr hvalue⟩
    | null | bool | num | str | arr => simp [matchType]
  | null | bool | num | arr =>
    refine iff_of_false ?_ (not_conforms nofun nofun)
    simp [matchType]

end Json

/-- **A value conforms when the expected type describes it.** The check decides this at every
location. A text is a specification at each of them, and stands for the values of its type; an
object asks for entries that conform, or that are absent under a specification with a question
mark; nothing else is a type. Entries under other keys can be dropped. -/
theorem check_type_decides_conforms (expected actual : Json) :
    (Predicate.type.check expected actual = .ok () ↔ Conforms expected actual) ∧
    (∀ location, Json.matchType location expected actual = .ok () ↔ Conforms expected actual) ∧
    (∀ location name,
      Json.matchType location (.str name) actual = .ok () ↔
        ∃ spec, TypeSpec.parse? name = some spec ∧ spec.HasValue actual) ∧
    (∀ location entries,
      Json.matchType location (.obj entries) actual = .ok () ↔
        ∃ found, actual = .obj found ∧ ∀ entry ∈ entries,
          (∃ value, Json.get? found entry.1 = some value ∧ Conforms entry.2 value) ∨
            (Json.get? found entry.1 = none ∧ AdmitsAbsence entry.2)) ∧
    (∀ location entries found,
      Json.matchType location (.obj entries) (.obj found) = .ok () ↔
        Json.matchType location (.obj entries)
          (.obj (found.filter (·.1 ∈ entries.map Prod.fst))) = .ok ()) := by
  refine ⟨?_, fun location => Json.matchType_eq_ok_iff,
    fun location name => Json.matchType_str_eq_ok_iff, fun location entries => ?_,
    fun location entries found => ?_⟩
  · exact Except.mapError_eq_ok_iff.trans Json.matchType_eq_ok_iff
  · exact Json.matchType_eq_ok_iff.trans conforms_obj_iff
  · rw [Json.matchType, Json.matchType, Json.matchTypes_eq_ok_iff, Json.matchTypes_eq_ok_iff]
    refine forall₂_congr fun entry hmem => ?_
    rw [Json.get?_filter (List.mem_map_of_mem hmem)]

/-- An object of types is never one whose key may be absent, even if all its own keys may be. -/
example :
    let entries : List (String × Json) := [("id", .str "int"), ("tag", .str "string?")]
    let nested : List (String × Json) := [("more", .obj [("tag", .str "string?")])]
    let actual : Json := .obj [("tag", .null), ("id", .int 1)]
    Predicate.type.check (.obj entries) actual = .ok () ∧
      (Predicate.type.check (.obj nested) actual).isOk = false := ⟨rfl, rfl⟩

end ResponseCheck
