import ResponseCheck.Proofs.Expectation
import ResponseCheck.Proofs.TypeSpec.Reading

/-!
# Malformed expectations

An expected value is malformed at a pattern that cannot be used, an expected type at a text that is
no specification or at a value that is neither a text nor an object. No value is accepted then,
wherever the malformed part stands. A check that does not come to it, because a key is absent, an
array too short or something before it a mismatch, fails for that reason.
-/

namespace ResponseCheck

namespace Predicate

/-- The parts of an expected value that are expected values themselves, at any depth. The entry of
a pattern is none, and neither are the items of an array of types. -/
inductive Asks : Predicate → Json → Json → Prop
  | self (predicate : Predicate) (expected : Json) : Asks predicate expected expected
  | entry {entries : List (String × Json)} {name : String} {child part : Json}
      (hplain : ∀ pattern, entries ≠ [("$regex", .str pattern)]) (hmem : (name, child) ∈ entries)
      (h : Asks .value child part) :
      Asks .value (.obj entries) part
  | item {items : List Json} {child part : Json} (hmem : child ∈ items)
      (h : Asks .value child part) :
      Asks .value (.arr items) part
  | typeEntry {entries : List (String × Json)} {name : String} {child part : Json}
      (hmem : (name, child) ∈ entries) (h : Asks .type child part) :
      Asks .type (.obj entries) part

/-- The expected values that nothing can meet, whatever else is expected. -/
inductive Malformed : Predicate → Json → Prop
  /-- A pattern that cannot be used. -/
  | pattern {pattern : String} {error : Pattern.Error}
      (h : Pattern.compile pattern = .error error) :
      Malformed .value (.obj [("$regex", .str pattern)])
  /-- A text that is no specification. -/
  | unknownType {name : String} (h : TypeSpec.parse? name = none) : Malformed .type (.str name)
  /-- A value that is neither a text nor an object. -/
  | unsupportedType {expected : Json} (hstr : ∀ name, expected ≠ .str name)
      (hobj : ∀ entries, expected ≠ .obj entries) :
      Malformed .type expected

variable {predicate : Predicate} {expected actual part : Json}

theorem Malformed.not_accepts (h : predicate.Malformed expected) (actual : Json) :
    ¬ predicate.Accepts expected actual := by
  cases h with
  | pattern hcompile =>
    intro hmatches
    obtain ⟨text, expr, -, hok, -⟩ := matches_pattern_iff.mp hmatches
    cases hcompile.symm.trans hok
  | unknownType hparse =>
    intro hconforms
    obtain ⟨spec, hspec, -⟩ := conforms_str_iff.mp hconforms
    cases hparse.symm.trans hspec
  | unsupportedType hstr hobj => exact not_conforms hstr hobj

theorem Malformed.not_admitsAbsence (h : predicate.Malformed expected) :
    ¬ AdmitsAbsence expected := by
  rintro ⟨name, spec, rfl, hspec, -⟩
  cases h with
  | unknownType hparse => cases hparse.symm.trans hspec
  | unsupportedType hstr => exact hstr name rfl

/-- A question mark behind a text that is no specification does not mend it. -/
theorem Malformed.append_mark {name : String} (h : Malformed .type (.str name)) :
    Malformed .type (.str (name ++ "?")) := by
  cases h with
  | unknownType hparse => exact .unknownType (TypeSpec.parse?_append_mark hparse)
  | unsupportedType hstr => exact absurd rfl (hstr name)

theorem asks_str_iff {name : String} : predicate.Asks (.str name) part ↔ part = .str name :=
  ⟨fun | .self .. => rfl, fun h => h ▸ .self ..⟩

/-- Where a value is accepted, each part that is asked for accepts some value, or may be absent. -/
theorem Accepts.exists_of_asks (hasks : predicate.Asks expected part)
    (h : predicate.Accepts expected actual) :
    (∃ value, predicate.Accepts part value) ∨ AdmitsAbsence part := by
  induction hasks generalizing actual with
  | self => exact .inl ⟨actual, h⟩
  | entry hplain hmem _ ih =>
    obtain ⟨found, -, hentries⟩ := (matches_obj_iff hplain).mp h
    obtain ⟨value, -, hvalue⟩ := hentries _ hmem
    exact ih hvalue
  | item hmem _ ih =>
    obtain ⟨found, -, hlength, hitems⟩ := matches_arr_iff.mp h
    obtain ⟨i, hitem⟩ := List.getElem?_of_mem hmem
    -- The array is long enough to have an item for each expected one.
    have hi : i < found.length :=
      Nat.lt_of_lt_of_le (List.getElem?_eq_some_iff.mp hitem).1 hlength
    exact ih (hitems i _ _ hitem (List.getElem?_eq_getElem hi))
  | typeEntry hmem hasks ih =>
    obtain ⟨found, -, hentries⟩ := conforms_obj_iff.mp h
    obtain ⟨value, -, hvalue⟩ | ⟨-, habsence⟩ := hentries _ hmem
    · exact ih hvalue
    · -- A type that may be absent is a text, which has no other parts.
      obtain ⟨name, spec, hname, hnullable⟩ := habsence
      obtain rfl : _ = Json.str name := hname
      exact .inr ⟨name, spec, asks_str_iff.mp hasks, hnullable⟩

theorem not_accepts_of_malformed (hasks : predicate.Asks expected part)
    (hmalformed : predicate.Malformed part) : ¬ predicate.Accepts expected actual := by
  intro h
  rcases h.exists_of_asks hasks with ⟨value, hvalue⟩ | habsence
  · exact hmalformed.not_accepts value hvalue
  · exact hmalformed.not_admitsAbsence habsence

end Predicate

/-- **Malformed expectations fail.** No value passes a check against an expected value that has a
malformed part, be it behind a key that is absent, an array that is too short or a mismatch. A
question mark behind a text that is no type does not mend it. -/
theorem malformed_expectation_fails (expected actual : Json) :
    (∀ (predicate : Predicate) part, predicate.Asks expected part → predicate.Malformed part →
      ∃ mismatch, predicate.check expected actual = .error mismatch) ∧
    ∀ name, Predicate.Malformed .type (.str name) →
      Predicate.Malformed .type (.str (name ++ "?")) := by
  refine ⟨fun predicate part hasks hmalformed => ?_, fun name h => h.append_mark⟩
  cases hcheck : predicate.check expected actual with
  | error mismatch => exact ⟨mismatch, rfl⟩
  | ok =>
    have haccepts := Predicate.check_eq_ok_iff.mp hcheck
    exact absurd haccepts (Predicate.not_accepts_of_malformed hasks hmalformed)

/-- The keys of the malformed parts are absent: one of them stands below an item that the array has
not, and the other one has a question mark. -/
theorem malformed_expectation_fails_of_absent :
    let pattern : Json := .obj [("$regex", .str "(")]
    let expected : Json := .obj [("ids", .arr [.int 1, .obj [("id", .int 2), ("name", pattern)]])]
    let types : Json := .obj [("ids", .str "array"), ("more", .obj [("tag", .str "gadget?")])]
    let actual : Json := .obj [("ids", .arr [.int 1])]
    Predicate.Asks .value expected pattern ∧ Predicate.Malformed .value pattern ∧
      (∃ mismatch, Predicate.value.check expected actual = .error mismatch) ∧
      Predicate.Asks .type types (.str "gadget?") ∧ Predicate.Malformed .type (.str "gadget") ∧
      ∃ mismatch, Predicate.type.check types actual = .error mismatch := by
  intro pattern expected types actual
  have hasks : Predicate.Asks .value expected pattern := by
    refine .entry (by simp) List.mem_cons_self ?_
    refine .item (List.mem_cons_of_mem _ List.mem_cons_self) ?_
    exact .entry (by simp) (List.mem_cons_of_mem _ List.mem_cons_self) (.self ..)
  have hmalformed : Predicate.Malformed .value pattern := .pattern rfl
  have htypes : Predicate.Asks .type types (.str "gadget?") := by
    refine .typeEntry (List.mem_cons_of_mem _ List.mem_cons_self) ?_
    exact .typeEntry List.mem_cons_self (.self ..)
  have hgadget : Predicate.Malformed .type (.str "gadget") := .unknownType rfl
  have hmarked := (malformed_expectation_fails types actual).2 "gadget" hgadget
  exact ⟨hasks, hmalformed, (malformed_expectation_fails expected actual).1 _ _ hasks hmalformed,
    htypes, hgadget, (malformed_expectation_fails types actual).1 _ _ htypes hmarked⟩

end ResponseCheck
