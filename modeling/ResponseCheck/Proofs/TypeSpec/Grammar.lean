import ResponseCheck.Proofs.TypeSpec.Reading

/-!
# The grammar of type specifications

A specification is written as one of twelve names, or as the mark of arrays with one of them in the
singular or the plural; a question mark may follow, and blanks may stand around it. No name begins
with the mark of arrays or ends with the letter of the plural or with a question mark, so that a
text is written for one specification only.
-/

namespace ResponseCheck

open Text (isBlank)

/-! ### Blanks around a text -/

namespace Text

/-- A text, and one that has nothing but blanks before and behind it. -/
def Padded (name text : String) : Prop :=
  ∃ before after, text = before ++ name ++ after ∧ (∀ c ∈ before.toList, isBlank c = true) ∧
    ∀ c ∈ after.toList, isBlank c = true

theorem padded_self (text : String) : Padded text text :=
  ⟨"", "", by simp, nofun, nofun⟩

/-- What is trimmed away are blanks. -/
theorem padded_trim (text : String) : Padded (trim text) text := by
  let behind := (text.toList.dropWhile isBlank).rtakeWhile isBlank
  refine ⟨String.ofList (text.toList.takeWhile isBlank), String.ofList behind, ?_, ?_, ?_⟩
  · rw [trim, trimChars, dropEndWhile_eq, ← String.toList_inj]
    simp only [String.toList_append, String.toList_ofList, List.append_assoc, behind]
    rw [List.rdropWhile_append_rtakeWhile, List.takeWhile_append_dropWhile]
  · rw [String.toList_ofList]
    exact fun c hc => List.mem_takeWhile_imp hc
  · rw [String.toList_ofList]
    exact fun c hc => List.mem_rtakeWhile_imp hc

theorem trimChars_eq_of_padded {name text : String} (h : Padded name text)
    (hname : ∀ c ∈ name.toList, isBlank c = false) : trimChars text.toList = name.toList := by
  obtain ⟨before, behind, rfl, hbefore, hbehind⟩ := h
  simp only [String.toList_append]
  cases hlist : name.toList with
  | nil =>
    rw [List.append_nil]
    exact trimChars_eq_nil_iff.mpr (List.forall_mem_append.mpr ⟨hbefore, hbehind⟩)
  | cons c cs =>
    rw [hlist] at hname
    have hlast : dropEndWhile isBlank (cs ++ behind.toList) = cs := by
      rw [dropEndWhile_eq, List.rdropWhile, List.reverse_append,
        List.dropWhile_append_of_pos fun c hc => hbehind c (List.mem_reverse.mp hc),
        ← List.rdropWhile, List.rdropWhile_eq_self_iff]
      intro hne
      rw [hname _ (List.mem_cons_of_mem c (List.getLast_mem hne))]
      exact Bool.false_ne_true
    rw [List.append_assoc, List.cons_append,
      trimChars_append_cons_eq (hname c List.mem_cons_self), hlast,
      List.dropWhile_eq_nil_iff.mpr hbefore, List.nil_append]

end Text

/-! ### Names and texts of types -/

/-- The names of the base types. -/
inductive BaseType.Named : BaseType → String → Prop
  | string : Named .string "string"
  | integer : Named .integer "integer"
  | int : Named .integer "int"
  | float : Named .float "float"
  | number : Named .number "number"
  | boolean : Named .boolean "boolean"
  | bool : Named .boolean "bool"
  | null : Named .null "null"
  | array : Named .array "array"
  | object : Named .object "object"
  | hash : Named .object "hash"
  | date : Named .date "date"

/-- How a type is written. -/
inductive ValueType.Written : ValueType → String → Prop
  | base {type : BaseType} {name : String} (h : type.Named name) : Written (.base type) name
  | singular {element : BaseType} {name : String} (h : element.Named name) :
      Written (.arrayOf element) ("array_of_" ++ name)
  | plural {element : BaseType} {name : String} (h : element.Named name) :
      Written (.arrayOf element) ("array_of_" ++ name ++ "s")

/-- How a specification is written. -/
inductive TypeSpec.Written : TypeSpec → String → Prop
  | plain {type : ValueType} {name : String} (h : type.Written name) : Written ⟨type, false⟩ name
  | nullable {type : ValueType} {name : String} (h : type.Written name) :
      Written ⟨type, true⟩ (name ++ "?")

theorem BaseType.ofName?_eq_some_iff {type : BaseType} {name : String} :
    ofName? name = some type ↔ type.Named name := by
  constructor
  · intro h
    unfold ofName? at h
    split at h
    case h_13 => cases h
    all_goals
      obtain rfl := Option.some.inj h
      constructor
  · rintro ⟨⟩ <;> rfl

theorem BaseType.named_name (type : BaseType) : type.Named type.name := by
  cases type <;> constructor

/-- No name ends with the letter of the plural. -/
theorem BaseType.Named.dropLast?_eq_none {type : BaseType} {name : String} (h : type.Named name) :
    dropLast? 's' name.toList = none := by
  cases h <;> rfl

/-- No name begins with the mark of arrays. -/
theorem BaseType.Named.not_mark {type : BaseType} {name : String} (h : type.Named name) :
    ValueType.arrayMark.toList.isPrefixOf name.toList = false := by
  cases h <;> rfl

theorem ValueType.parse?_eq_some_iff {type : ValueType} {name : String} :
    parse? name.toList = some type ↔ type.Written name := by
  simp only [parse?]
  constructor
  · intro h
    split at h
    · next hmark =>
      obtain ⟨element, helement⟩ := List.isPrefixOf_iff_prefix.mp hmark
      obtain ⟨base, hbase, rfl⟩ := Option.map_eq_some_iff.mp h
      rw [← helement, List.drop_left] at hbase
      cases hplural : dropLast? 's' element with
      | none =>
        rw [hplural, Option.getD_none, BaseType.ofName?_eq_some_iff] at hbase
        have hname : name = "array_of_" ++ String.ofList element := by
          rw [← String.toList_inj, String.toList_append, ← helement]
          exact congrArg (arrayMark.toList ++ ·) String.toList_ofList.symm
        exact hname ▸ .singular hbase
      | some singular =>
        rw [hplural, Option.getD_some, BaseType.ofName?_eq_some_iff] at hbase
        have hname : name = "array_of_" ++ String.ofList singular ++ "s" := by
          rw [← String.toList_inj, ← helement, dropLast?_eq_some_iff.mp hplural,
            String.toList_append, String.toList_append, List.append_assoc]
          exact congrArg (fun cs => arrayMark.toList ++ (cs ++ ['s'])) String.toList_ofList.symm
        exact hname ▸ .plural hbase
    · obtain ⟨base, hbase, rfl⟩ := Option.map_eq_some_iff.mp h
      rw [String.ofList_toList, BaseType.ofName?_eq_some_iff] at hbase
      exact .base hbase
  · intro h
    cases h with
    | base h =>
      rw [if_neg (by rw [h.not_mark]; exact Bool.false_ne_true), String.ofList_toList,
        BaseType.ofName?_eq_some_iff.mpr h]
      rfl
    | @singular element name h =>
      have hlist : ("array_of_" ++ name).toList = arrayMark.toList ++ name.toList :=
        String.toList_append
      rw [hlist, if_pos (List.isPrefixOf_iff_prefix.mpr (List.prefix_append _ _)), List.drop_left,
        h.dropLast?_eq_none, Option.getD_none, String.ofList_toList,
        BaseType.ofName?_eq_some_iff.mpr h]
      rfl
    | @plural element name h =>
      have hlist : ("array_of_" ++ name ++ "s").toList =
          arrayMark.toList ++ (name.toList ++ ['s']) := by
        rw [String.toList_append, String.toList_append, List.append_assoc]
        rfl
      rw [hlist, if_pos (List.isPrefixOf_iff_prefix.mpr (List.prefix_append _ _)), List.drop_left,
        dropLast?_eq_some_iff.mpr rfl, Option.getD_some, String.ofList_toList,
        BaseType.ofName?_eq_some_iff.mpr h]
      rfl

/-! ### Specifications -/

theorem ValueType.Written.isNameChar {type : ValueType} {name : String} (h : type.Written name) :
    ∀ c ∈ name.toList, IsNameChar c :=
  isNameChar_of_parse? (parse?_eq_some_iff.mpr h)

namespace TypeSpec

theorem Written.not_isBlank {spec : TypeSpec} {name : String} (h : spec.Written name) :
    ∀ c ∈ name.toList, isBlank c = false := by
  cases h with
  | plain h => exact fun c hc => (h.isNameChar c hc).not_isBlank
  | nullable h =>
    rw [String.toList_append]
    exact List.forall_mem_append.mpr ⟨fun c hc => (h.isNameChar c hc).not_isBlank,
      List.forall_mem_singleton.mpr rfl⟩

theorem parse?_eq_some_iff_trim {spec : TypeSpec} {text : String} :
    parse? text = some spec ↔ spec.Written (Text.trim text) := by
  have htrim : Text.trimChars text.toList = (Text.trim text).toList := String.toList_ofList.symm
  rw [parse?, htrim]
  generalize Text.trim text = name
  constructor
  · intro h
    cases hmark : dropLast? '?' name.toList with
    | some front =>
      simp only [hmark] at h
      obtain ⟨type, htype, rfl⟩ := Option.map_eq_some_iff.mp h
      have hname : name = String.ofList front ++ "?" := by
        rw [← String.toList_inj, String.toList_append, dropLast?_eq_some_iff.mp hmark]
        exact congrArg (· ++ ['?']) String.toList_ofList.symm
      rw [← @String.toList_ofList front, ValueType.parse?_eq_some_iff] at htype
      exact hname ▸ .nullable htype
    | none =>
      simp only [hmark] at h
      obtain ⟨type, htype, rfl⟩ := Option.map_eq_some_iff.mp h
      exact .plain (ValueType.parse?_eq_some_iff.mp htype)
  · intro h
    cases h with
    | plain h =>
      have hnoMark : '?' ∉ name.toList := fun hmem => by
        simpa [IsNameChar] using h.isNameChar '?' hmem
      simp only [dropLast?_eq_none hnoMark, ValueType.parse?_eq_some_iff.mpr h, Option.map_some]
    | @nullable type name h =>
      have hmark : (name ++ "?").toList = name.toList ++ ['?'] := String.toList_append
      simp only [hmark, dropLast?_eq_some_iff.mpr rfl, ValueType.parse?_eq_some_iff.mpr h,
        Option.map_some]

/-- What is read as a specification is one that is written, maybe with blanks around it. -/
theorem parse?_eq_some_iff {spec : TypeSpec} {text : String} :
    parse? text = some spec ↔ ∃ name, Text.Padded name text ∧ spec.Written name := by
  rw [parse?_eq_some_iff_trim]
  constructor
  · exact fun h => ⟨Text.trim text, Text.padded_trim text, h⟩
  · rintro ⟨name, hpadded, hwritten⟩
    have htrim : Text.trim text = name := by
      rw [Text.trim, Text.trimChars_eq_of_padded hpadded hwritten.not_isBlank, String.ofList_toList]
    rwa [htrim]

/-- The text of a specification is one way to write it. -/
theorem written_text (spec : TypeSpec) : spec.Written spec.text := by
  obtain ⟨type, nullable⟩ := spec
  have htype : type.Written type.text := by
    cases type with
    | base type => exact .base type.named_name
    | arrayOf element => exact .plural element.named_name
  cases nullable with
  | true => exact .nullable htype
  | false =>
    rw [text, if_neg Bool.false_ne_true, String.append_empty]
    exact .plain htype

theorem parse?_text (spec : TypeSpec) : parse? spec.text = some spec :=
  parse?_eq_some_iff.mpr ⟨spec.text, Text.padded_self _, spec.written_text⟩

theorem text_inj {spec spec' : TypeSpec} : spec.text = spec'.text ↔ spec = spec' := by
  constructor
  · intro h
    exact Option.some.inj (spec.parse?_text.symm.trans (h ▸ spec'.parse?_text))
  · exact congrArg text

end TypeSpec

/-- **Specifications are read by their grammar.** A text is read as a specification exactly if it is
written as one, with blanks around it or without; a specification is read back from its text; and
two of them have the same text only if they are the same. -/
theorem type_specs_follow_grammar :
    (∀ text spec, TypeSpec.parse? text = some spec ↔
      ∃ name, Text.Padded name text ∧ spec.Written name) ∧
    (∀ spec : TypeSpec, TypeSpec.parse? spec.text = some spec) ∧
    ∀ spec spec' : TypeSpec, spec.text = spec'.text ↔ spec = spec' :=
  ⟨fun _ _ => TypeSpec.parse?_eq_some_iff, TypeSpec.parse?_text, fun _ _ => TypeSpec.text_inj⟩

/-- Blanks may not stand in front of the question mark, and there is but one of them. -/
example :
    TypeSpec.parse? " array_of_hash?\n" = some ⟨.arrayOf .object, true⟩ ∧
      TypeSpec.parse? "int ?" = none ∧ TypeSpec.parse? "int??" = none ∧
      TypeSpec.parse? "array_of_intss" = none := by decide

end ResponseCheck
