import ResponseCheck.Proofs.Matching.FirstMismatch
import ResponseCheck.Proofs.TypeSpec.Grammar

/-!
# The type names of values

The name that messages give to the type of a value is the text of a specification, and the value is
one of its values. So what a value is called can be expected of it, at every depth; and where a
value is refused for its type, it is not called by the name of the type that was expected.
-/

namespace ResponseCheck

namespace Json

/-- The base type that a value is called by. -/
def kind : Json → BaseType
  | .null => .null
  | .bool _ => .boolean
  | .num (.int _) => .integer
  | .num (.float _) => .number
  | .str _ => .string
  | .arr _ => .array
  | .obj _ => .object

theorem typeName_eq_name_kind (value : Json) : value.typeName = value.kind.name := by
  unfold typeName kind
  split <;> rfl

/-- A value is one of its kind; a binary number is called a number, also if it is integral. -/
theorem hasValue_kind (value : Json) : value.kind.HasValue value := by
  unfold kind
  split <;> constructor

mutual

/-- What can be expected of a value: of an object what can be expected under its keys, and of
another value the name of its type. -/
def inferredType : Json → Json
  | .obj entries => .obj (inferredTypes entries)
  | value => .str value.typeName

/-- What can be expected under the keys of an object. -/
def inferredTypes : List (String × Json) → List (String × Json)
  | [] => []
  | (name, value) :: rest => (name, value.inferredType) :: inferredTypes rest

end

theorem inferredTypes_eq_map (entries : List (String × Json)) :
    inferredTypes entries = entries.map fun entry => (entry.1, entry.2.inferredType) := by
  induction entries with
  | nil => rfl
  | cons entry rest ih => rw [inferredTypes, ih, List.map_cons]

end Json

/-- A specification whose text is the name of a type has the values that are called so. -/
theorem TypeSpec.hasValue_of_text_eq {spec : TypeSpec} {value : Json}
    (h : spec.text = value.typeName) : spec.HasValue value := by
  have hspec : spec = ⟨.base value.kind, false⟩ := by
    rw [← TypeSpec.text_inj, h, value.typeName_eq_name_kind]
    exact String.append_empty.symm
  rw [hspec]
  exact .base value.hasValue_kind

namespace Json

theorem conforms_str_typeName (value : Json) : Conforms (.str value.typeName) value := by
  let spec : TypeSpec := ⟨.base value.kind, false⟩
  have htext : spec.text = value.typeName := by
    rw [value.typeName_eq_name_kind]
    exact String.append_empty
  exact .spec (htext ▸ spec.parse?_text) (TypeSpec.hasValue_of_text_eq htext)

/-- A value conforms to what is inferred from it. -/
theorem conforms_inferredType {value : Json} (h : value.WellFormed) :
    Conforms value.inferredType value := by
  induction value using Json.induction with
  | obj entries ih =>
    obtain ⟨hnames, hvalues⟩ := wellFormed_obj_iff.mp h
    rw [inferredType, inferredTypes_eq_map, conforms_obj_iff]
    refine ⟨entries, rfl, List.forall_mem_map.mpr fun entry hmem => ?_⟩
    -- No name is repeated, so what is found is the value that the expected one is inferred from.
    exact .inl ⟨entry.2, (get?_eq_some_iff hnames).mpr hmem, ih entry hmem (hvalues entry hmem)⟩
  | null | bool | num | str | arr => exact conforms_str_typeName _

/-- A type that is named in a rejection lacks the value that is pointed at. -/
theorem not_hasValue_of_wrongType {location place : Location} {expected actual value : Json}
    {spec : TypeSpec}
    (h : matchType location expected actual = .error ⟨.wrongType spec, place, value⟩) :
    ¬ spec.HasValue value := by
  -- The check goes down what is expected, and only a text in it is read as a type.
  induction expected using Json.induction generalizing location actual with
  | str name =>
    rw [matchType] at h
    split at h
    · cases h
    · split at h
      · cases h
      · next hrefused =>
        cases h
        rwa [TypeSpec.accepts_iff] at hrefused
  | obj entries ih =>
    cases actual with
    | obj found =>
      rw [matchType, Predicate.matchTypes_eq_forM] at h
      obtain ⟨_, entry, _, rfl, -, hentry⟩ := Except.forM_eq_error_iff.mp h
      unfold Predicate.checkEntry at hentry
      split at hentry
      · exact ih entry (List.mem_append_right _ List.mem_cons_self) hentry
      · split at hentry <;> cases hentry
    | null | bool | num | str | arr => cases h
  | null | bool | num | arr => cases h

end Json

theorem Rejection.message_wrongType (spec : TypeSpec) (place : Location) (value : Json) :
    (Rejection.mk (.wrongType spec) place value).message =
      "expected " ++ place.text ++ " to be of type " ++ spec.text ++ ", got " ++
        value.typeName := by
  rw [Rejection.message]
  simp only [String.append_assoc]
  rfl

/-- **What a value is called can be expected of it.** The type that is inferred from a value, key by
key, is met by it; a specification whose text is the name of a value's type accepts the value; and
so a message that a value has another type than the expected one names two types. Objects do not
repeat a name. -/
theorem type_names_are_types :
    (∀ value : Json, value.WellFormed →
      Predicate.type.check value.inferredType value = .ok ()) ∧
    (∀ (spec : TypeSpec) (value : Json), spec.text = value.typeName →
      spec.accepts value = true) ∧
    ∀ (expected actual value : Json) (spec : TypeSpec) (place : Location),
      Predicate.type.check expected actual =
          .error (.rejected ⟨.wrongType spec, place, value⟩) →
        (Mismatch.rejected ⟨.wrongType spec, place, value⟩).message =
            "expected " ++ place.text ++ " to be of type " ++ spec.text ++ ", got " ++
              value.typeName ∧
          spec.text ≠ value.typeName := by
  refine ⟨fun value hvalue => ?_, fun spec value hname => ?_, ?_⟩
  · exact Predicate.check_eq_ok_iff.mpr (Json.conforms_inferredType hvalue)
  · exact TypeSpec.accepts_iff.mpr (TypeSpec.hasValue_of_text_eq hname)
  · intro expected actual value spec place h
    rw [Predicate.check_eq_mapError] at h
    obtain ⟨_, hrefused, ⟨⟩⟩ := Except.mapError_eq_error_iff.mp h
    refine ⟨?_, fun hname => ?_⟩
    · rw [Mismatch.message_rejected, Rejection.message_wrongType]
    · exact Json.not_hasValue_of_wrongType hrefused (TypeSpec.hasValue_of_text_eq hname)

/-- An integer beyond the signed ones is an integer; but a binary number is a number, also if it is
integral, and it is told from an integer. -/
theorem type_names_are_types_of_integral :
    let large : Json := .int 0xFFFFFFFFFFFFFFFF
    let integral : Json := .num (.float ⟨false, ⟨1024, by decide⟩, ⟨0, by decide⟩⟩)
    let value : Json := .obj [("id", large), ("of", .obj [("n", integral), ("next", .null)])]
    let expected : Json := .obj [("id", .str "integer"),
      ("of", .obj [("n", .str "number"), ("next", .str "null")])]
    let place : Location := [.key "of", .key "n"]
    value.WellFormed ∧ value.inferredType = expected ∧
      Predicate.type.check expected value = .ok () ∧
      (TypeSpec.mk (.base .integer) false).accepts large = true ∧
      Predicate.type.check (.obj [("of", .obj [("n", .str "int")])]) value =
        .error (.rejected ⟨.wrongType ⟨.base .integer, false⟩, place, integral⟩) ∧
      (Mismatch.rejected ⟨.wrongType ⟨.base .integer, false⟩, place, integral⟩).message =
        "expected $.of.n to be of type integer, got number" := by
  intro large integral value expected place
  have hvalue : value.WellFormed := by
    simp [value, large, integral, Json.WellFormed, Json.WellFormedEntries, Json.int,
      Json.Number.Fits]
  have hinferred : value.inferredType = expected := rfl
  have hrefused : Predicate.type.check (.obj [("of", .obj [("n", .str "int")])]) value =
      .error (.rejected ⟨.wrongType ⟨.base .integer, false⟩, place, integral⟩) := rfl
  obtain ⟨hinfer, haccepts, hnames⟩ := type_names_are_types
  exact ⟨hvalue, hinferred, hinferred ▸ hinfer value hvalue, haccepts _ large rfl, hrefused,
    (hnames _ value integral _ place hrefused).1⟩

end ResponseCheck
