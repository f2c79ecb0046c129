import ResponseCheck.Proofs.Text.Blank
import ResponseCheck.TypeSpec

/-!
# Reading type specifications

The names of types are made of small letters and underscores. So a name has neither a blank nor a
question mark at its end, and a text that is no specification is none with a question mark either.
-/

namespace ResponseCheck

open Text (isBlank trimChars dropEndWhile)

theorem dropLast?_eq_some_iff {c : Char} {cs rest : List Char} :
    dropLast? c cs = some rest ↔ cs = rest ++ [c] := by
  unfold dropLast?
  constructor
  · intro h
    split at h
    · next hlast =>
      obtain rfl := Option.some.inj h
      obtain ⟨front, rfl⟩ := List.getLast?_eq_some_iff.mp hlast
      rw [List.dropLast_concat]
    · cases h
  · rintro rfl
    simp

theorem dropLast?_eq_none {c : Char} {cs : List Char} (h : c ∉ cs) : dropLast? c cs = none := by
  rw [Option.eq_none_iff_forall_ne_some]
  intro rest hrest
  rw [dropLast?_eq_some_iff.mp hrest] at h
  exact h (List.mem_append_right _ List.mem_cons_self)

/-! ### Characters of names -/

/-- The characters that the names of types are made of. -/
def IsNameChar (c : Char) : Prop := c.isLower = true ∨ c = '_'

variable {cs : List Char}

theorem IsNameChar.not_isBlank {c : Char} (h : IsNameChar c) : isBlank c = false := by
  rcases h with h | rfl
  · obtain ⟨hlow, hhigh⟩ := Bool.and_eq_true_iff.mp h
    have hrange : 97 ≤ c.toNat ∧ c.toNat ≤ 122 :=
      ⟨UInt32.le_iff_toNat_le.mp (of_decide_eq_true hlow),
        UInt32.le_iff_toNat_le.mp (of_decide_eq_true hhigh)⟩
    simp only [isBlank, Bool.or_eq_false_iff, Bool.and_eq_false_iff, beq_eq_false_iff_ne,
      decide_eq_false_iff_not]
    omega
  · rfl

theorem BaseType.isNameChar_of_ofName? {type : BaseType}
    (h : ofName? (String.ofList cs) = some type) : ∀ c ∈ cs, IsNameChar c := by
  have hlower : (String.ofList cs).toList.all Char.isLower = true := by
    generalize String.ofList cs = name at h
    unfold ofName? at h
    split at h
    case h_13 => cases h
    all_goals rfl
  rw [String.toList_ofList, List.all_eq_true] at hlower
  exact fun c hmem => .inl (hlower c hmem)

theorem ValueType.isNameChar_of_parse? {type : ValueType} (h : parse? cs = some type) :
    ∀ c ∈ cs, IsNameChar c := by
  simp only [parse?] at h
  split at h
  · next hmark =>
    obtain ⟨element, rfl⟩ := List.isPrefixOf_iff_prefix.mp hmark
    obtain ⟨base, hbase, -⟩ := Option.map_eq_some_iff.mp h
    rw [List.drop_left] at hbase
    have hsingular := BaseType.isNameChar_of_ofName? hbase
    have harrayMark : ∀ c ∈ arrayMark.toList, IsNameChar c := by
      have hall : arrayMark.toList.all (fun c => c.isLower || c == '_') = true := rfl
      simpa [IsNameChar] using hall
    refine List.forall_mem_append.mpr ⟨harrayMark, ?_⟩
    -- The plural has one letter more than the singular.
    cases hplural : dropLast? 's' element with
    | none => rwa [hplural] at hsingular
    | some singular =>
      rw [hplural] at hsingular
      rw [dropLast?_eq_some_iff.mp hplural]
      exact List.forall_mem_append.mpr ⟨hsingular, List.forall_mem_singleton.mpr (.inl rfl)⟩
  · obtain ⟨base, hbase, -⟩ := Option.map_eq_some_iff.mp h
    exact BaseType.isNameChar_of_ofName? hbase

theorem dropEndWhile_of_isNameChar (h : ∀ c ∈ cs, IsNameChar c) : dropEndWhile isBlank cs = cs := by
  rw [Text.dropEndWhile_eq, List.rdropWhile_eq_self_iff]
  intro hne
  rw [(h _ (List.getLast_mem hne)).not_isBlank]
  exact Bool.false_ne_true

/-! ### Question marks -/

theorem trimChars_append_mark (cs : List Char) :
    trimChars (cs ++ ['?']) = cs.dropWhile isBlank ++ ['?'] := by
  rw [trimChars, List.dropWhile_append]
  split
  · next hempty =>
    rw [List.isEmpty_iff.mp hempty]
    rfl
  · exact Text.dropEndWhile_append_cons rfl _ []

/-- A text that is no specification is none with a question mark behind it either. -/
theorem TypeSpec.parse?_append_mark {text : String} (h : parse? text = none) :
    parse? (text ++ "?") = none := by
  rw [Option.eq_none_iff_forall_ne_some]
  intro spec hspec
  -- What stands in front of the mark would be a type, and so the text a specification.
  have hmark : (text ++ "?").toList = text.toList ++ ['?'] := String.toList_append
  rw [parse?, hmark, trimChars_append_mark] at hspec
  simp only [dropLast?_eq_some_iff.mpr rfl] at hspec
  obtain ⟨type, htype, -⟩ := Option.map_eq_some_iff.mp hspec
  have hchars := ValueType.isNameChar_of_parse? htype
  have hnoMark : '?' ∉ text.toList.dropWhile isBlank := fun hmem => by
    simpa [IsNameChar] using hchars '?' hmem
  have htrim : trimChars text.toList = text.toList.dropWhile isBlank :=
    dropEndWhile_of_isNameChar hchars
  simp [parse?, htrim, dropLast?_eq_none hnoMark, htype] at h

end ResponseCheck
