import ResponseCheck.TypeSpec

/-! Which values a type specification stands for, kind by kind, and that these are the values it
accepts. -/

namespace ResponseCheck

/-- The values of a base type. -/
inductive BaseType.HasValue : BaseType → Json → Prop
  | string (text : String) : HasValue .string (.str text)
  /-- Integers of 64 bits, signed or unsigned, are the only integers that a document has. -/
  | integer (n : Int) : HasValue .integer (.int n)
  | float (x : Binary64) : HasValue .float (.num (.float x))
  | number (n : Json.Number) : HasValue .number (.num n)
  | boolean (b : Bool) : HasValue .boolean (.bool b)
  | null : HasValue .null .null
  | array (items : List Json) : HasValue .array (.arr items)
  | object (entries : List (String × Json)) : HasValue .object (.obj entries)
  /-- A date is a text of a certain form. -/
  | date {text : String} (h : Calendar.isTimestamp text = true) : HasValue .date (.str text)

/-- The values of a specification. -/
inductive TypeSpec.HasValue : TypeSpec → Json → Prop
  /-- A question mark adds null to the values of any type. -/
  | null (type : ValueType) : HasValue ⟨type, true⟩ .null
  | base {type : BaseType} {nullable : Bool} {value : Json} (h : type.HasValue value) :
      HasValue ⟨.base type, nullable⟩ value
  /-- Items are values of the base type alone: the question mark is not theirs. -/
  | arrayOf {element : BaseType} {nullable : Bool} {items : List Json}
      (h : ∀ item ∈ items, element.HasValue item) :
      HasValue ⟨.arrayOf element, nullable⟩ (.arr items)

theorem BaseType.accepts_iff {type : BaseType} {value : Json} :
    type.accepts value = true ↔ type.HasValue value := by
  constructor
  · intro h
    unfold accepts at h
    split at h
    · exact .string _
    · exact .integer _
    · exact .float _
    · exact .number _
    · exact .boolean _
    · exact .null
    · exact .array _
    · exact .object _
    · exact .date h
    · cases h
  · intro h
    cases h with
    | date h => exact h
    | _ => rfl

theorem ValueType.accepts_arrayOf_iff {element : BaseType} {value : Json} :
    (arrayOf element).accepts value = true ↔
      ∃ items, value = .arr items ∧ ∀ item ∈ items, element.HasValue item := by
  cases value with
  | arr items => simp [accepts, BaseType.accepts_iff]
  | null | bool | num | str | obj => simp [accepts]

theorem TypeSpec.accepts_iff {spec : TypeSpec} {value : Json} :
    spec.accepts value = true ↔ spec.HasValue value := by
  obtain ⟨type, nullable⟩ := spec
  rw [accepts, Bool.or_eq_true, Bool.and_eq_true]
  constructor
  · rintro (⟨hnullable, hnull⟩ | htype)
    · obtain rfl : nullable = true := hnullable
      cases value with
      | null => exact .null type
      | bool | num | str | arr | obj => cases hnull
    · cases type with
      | base type => exact .base (BaseType.accepts_iff.mp htype)
      | arrayOf element =>
        obtain ⟨items, rfl, hitems⟩ := ValueType.accepts_arrayOf_iff.mp htype
        exact .arrayOf hitems
  · intro h
    cases h with
    | null type => exact .inl ⟨rfl, rfl⟩
    | base h => exact .inr (BaseType.accepts_iff.mpr h)
    | arrayOf h => exact .inr (ValueType.accepts_arrayOf_iff.mpr ⟨_, rfl, h⟩)

end ResponseCheck
