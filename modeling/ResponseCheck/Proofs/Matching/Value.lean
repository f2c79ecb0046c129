import ResponseCheck.Expectation
import ResponseCheck.Proofs.Except
import ResponseCheck.Proofs.Json.Basic

/-!
# What it means for a value to match

An expected value describes the values that contain it: objects may have more entries and arrays
more items, numbers are compared by value, and a pattern stands for the strings in which it is
found. The check of a value is shown to decide this relation at every location.

## Main definitions

* `Matches` — the values that an expected value describes

## Main results

* `Json.matchEntries_eq_ok_iff`, `Json.matchItems_eq_ok_iff` — containers, by their elements
* `Json.matchValue_eq_ok_iff` — the check decides the relation
* `check_value_decides_matches` — so does the predicate, and only one form is a pattern
-/

namespace ResponseCheck

/-- The actual values that an expected value describes. -/
inductive Matches : Json → Json → Prop
  /-- A pattern describes the strings in which it is found. -/
  | pattern {pattern text : String} {expr : Pattern.Expr}
      (hcompile : Pattern.compile pattern = .ok expr) (hsearch : expr.search text = true) :
      Matches (.obj [("$regex", .str pattern)]) (.str text)
  /-- Any other object describes the objects that have all its keys with values it describes. -/
  | object {expected actual : List (String × Json)}
      (hplain : ∀ pattern, expected ≠ [("$regex", .str pattern)])
      (hpresent : ∀ entry ∈ expected, ∃ value, Json.get? actual entry.1 = some value)
      (hvalues : ∀ entry ∈ expected, ∀ value, Json.get? actual entry.1 = some value →
        Matches entry.2 value) :
      Matches (.obj expected) (.obj actual)
  /-- An array describes the arrays that start with items it describes. -/
  | array {expected actual : List Json} (hlength : expected.length ≤ actual.length)
      (hitems : ∀ (i : Nat) item value, expected[i]? = some item → actual[i]? = some value →
        Matches item value) :
      Matches (.arr expected) (.arr actual)
  | number {expected actual : Json.Number} (heqv : expected.eqv actual = true) :
      Matches (.num expected) (.num actual)
  | null : Matches .null .null
  | bool (b : Bool) : Matches (.bool b) (.bool b)
  | str (s : String) : Matches (.str s) (.str s)

section

variable {actual : Json}

theorem matches_null_iff : Matches .null actual ↔ actual = .null :=
  ⟨fun | .null => rfl, fun h => h ▸ .null⟩

theorem matches_bool_iff {b : Bool} : Matches (.bool b) actual ↔ actual = .bool b :=
  ⟨fun | .bool _ => rfl, fun h => h ▸ .bool b⟩

theorem matches_str_iff {s : String} : Matches (.str s) actual ↔ actual = .str s :=
  ⟨fun | .str _ => rfl, fun h => h ▸ .str s⟩

theorem matches_num_iff {n : Json.Number} :
    Matches (.num n) actual ↔ ∃ found, actual = .num found ∧ n.eqv found = true := by
  constructor
  · rintro ⟨⟩
    exact ⟨_, rfl, ‹_›⟩
  · rintro ⟨found, rfl, heqv⟩
    exact .number heqv

theorem matches_arr_iff {items : List Json} :
    Matches (.arr items) actual ↔
      ∃ found, actual = .arr found ∧ items.length ≤ found.length ∧
        ∀ (i : Nat) item value, items[i]? = some item → found[i]? = some value →
          Matches item value := by
  constructor
  · rintro ⟨⟩
    exact ⟨_, rfl, ‹_›, ‹_›⟩
  · rintro ⟨found, rfl, hlength, hitems⟩
    exact .array hlength hitems

theorem matches_pattern_iff {pattern : String} :
    Matches (.obj [("$regex", .str pattern)]) actual ↔
      ∃ text expr, actual = .str text ∧ Pattern.compile pattern = .ok expr ∧
        expr.search text = true := by
  constructor
  · intro h
    cases h with
    | pattern hcompile hsearch => exact ⟨_, _, rfl, hcompile, hsearch⟩
    | object hplain => exact absurd rfl (hplain pattern)
  · rintro ⟨text, expr, rfl, hcompile, hsearch⟩
    exact .pattern hcompile hsearch

theorem matches_obj_iff {entries : List (String × Json)}
    (hplain : ∀ pattern, entries ≠ [("$regex", .str pattern)]) :
    Matches (.obj entries) actual ↔
      ∃ found, actual = .obj found ∧ ∀ entry ∈ entries, ∃ value,
        Json.get? found entry.1 = some value ∧ Matches entry.2 value := by
  constructor
  · intro h
    cases h with
    | pattern => exact absurd rfl (hplain _)
    | object _ hpresent hvalues =>
      refine ⟨_, rfl, fun entry hmem => ?_⟩
      obtain ⟨value, hfound⟩ := hpresent entry hmem
      exact ⟨value, hfound, hvalues entry hmem value hfound⟩
  · rintro ⟨found, rfl, hentries⟩
    refine .object hplain (fun entry hmem => ?_) fun entry hmem value hfound => ?_
    · obtain ⟨value, hfound, -⟩ := hentries entry hmem
      exact ⟨value, hfound⟩
    · obtain ⟨other, hother, hmatches⟩ := hentries entry hmem
      obtain rfl := Option.some.inj (hother.symm.trans hfound)
      exact hmatches

end

namespace Json

variable {location : Location} {expected actual : Json}

theorem pattern?_eq_some_iff {pattern : String} :
    expected.pattern? = some pattern ↔ expected = .obj [("$regex", .str pattern)] := by
  unfold pattern?
  split
  · next name found =>
    split
    · next hname => simp_all
    · next hname => simp_all
  · next hother =>
    constructor
    · intro h
      cases h
    · intro h
      exact absurd h (hother _ _)

/-- An object that is no pattern. -/
theorem pattern?_obj_eq_none_iff {entries : List (String × Json)} :
    (obj entries).pattern? = none ↔ ∀ pattern, entries ≠ [("$regex", .str pattern)] := by
  rw [Option.eq_none_iff_forall_ne_some]
  refine forall_congr' fun pattern => ?_
  rw [ne_eq, pattern?_eq_some_iff, obj.injEq]

theorem matchPattern_eq_ok_iff {pattern : String} :
    matchPattern pattern location actual = .ok () ↔
      ∃ text expr, actual = .str text ∧ Pattern.compile pattern = .ok expr ∧
        expr.search text = true := by
  rw [matchPattern]
  cases hcompile : Pattern.compile pattern with
  | error error => simp
  | ok expr => cases actual <;> simp

theorem matchEntries_eq_ok_iff {expected actual : List (String × Json)} :
    matchEntries location expected actual = .ok () ↔
      ∀ entry ∈ expected, ∃ value, get? actual entry.1 = some value ∧
        matchValue (location ++ [.key entry.1]) entry.2 value = .ok () := by
  induction expected with
  | nil => simp [matchEntries]
  | cons entry rest ih =>
    obtain ⟨name, expected⟩ := entry
    rw [matchEntries, List.forall_mem_cons, ← ih]
    cases hfound : get? actual name with
    | none => simp
    | some value => simp [Except.bind_unit_eq_ok_iff]

theorem matchItems_eq_ok_iff {index : Nat} {expected actual : List Json} :
    matchItems location index expected actual = .ok () ↔
      ∀ (i : Nat) item value, expected[i]? = some item → actual[i]? = some value →
        matchValue (location ++ [.index (index + i)]) item value = .ok () := by
  induction expected generalizing index actual with
  | nil => simp [matchItems]
  | cons item rest ih =>
    cases actual with
    | nil => simp [matchItems]
    | cons value values =>
      rw [matchItems, Except.bind_unit_eq_ok_iff]
      constructor
      · rintro ⟨hfirst, hrest⟩ i found other hitem hvalue
        cases i with
        | zero =>
          cases hitem
          cases hvalue
          exact hfirst
        | succ i =>
          have hnext := ih.mp hrest i found other hitem hvalue
          rwa [Nat.add_right_comm] at hnext
      · intro h
        refine ⟨h 0 item value rfl rfl, ih.mpr ?_⟩
        intro i found other hitem hvalue
        have hnext := h (i + 1) found other hitem hvalue
        rwa [← Nat.add_assoc, Nat.add_right_comm] at hnext

theorem matchValue_pattern {pattern : String} (h : expected.pattern? = some pattern) :
    matchValue location expected actual = matchPattern pattern location actual := by
  unfold matchValue
  simp only [h]

/-- An object that is no pattern matches when all its entries do. -/
theorem matchValue_obj_eq_ok_iff {entries found : List (String × Json)}
    (hplain : (obj entries).pattern? = none) :
    matchValue location (.obj entries) (.obj found) = .ok () ↔
      ∀ entry ∈ entries, ∃ value, get? found entry.1 = some value ∧
        matchValue (location ++ [.key entry.1]) entry.2 value = .ok () := by
  rw [← matchEntries_eq_ok_iff]
  unfold matchValue
  simp only [hplain]

/-- An array matches one that is as long, when all its items do. -/
theorem matchValue_arr_eq_ok_iff {items found : List Json} :
    matchValue location (.arr items) (.arr found) = .ok () ↔
      items.length ≤ found.length ∧
        ∀ (i : Nat) item value, items[i]? = some item → found[i]? = some value →
          matchValue (location ++ [.index i]) item value = .ok () := by
  have hitems := @matchItems_eq_ok_iff location 0 items found
  simp only [Nat.zero_add] at hitems
  rw [← hitems]
  unfold matchValue
  simp only [pattern?]
  split
  · next hshort => exact iff_of_false nofun fun h => absurd h.1 (Nat.not_le.mpr hshort)
  · next hlength => simp [Nat.le_of_not_lt hlength]

theorem matchValue_num {n found : Number} :
    matchValue location (.num n) (.num found) =
      if n.eqv found then .ok () else .error ⟨.differs (.num n), location, .num found⟩ := by
  unfold matchValue
  rfl

/-- The check of a value decides whether the expected value describes it, at every location. -/
theorem matchValue_eq_ok_iff :
    matchValue location expected actual = .ok () ↔ Matches expected actual := by
  -- The check recurses on the expected value; the actual one only has to follow.
  induction expected using Json.induction generalizing location actual with
  | null =>
    rw [matches_null_iff]
    cases actual <;> simp [matchValue, pattern?, matchScalar]
  | bool b =>
    rw [matches_bool_iff]
    cases actual <;> simp [matchValue, pattern?, matchScalar, eq_comm (a := b)]
  | str s =>
    rw [matches_str_iff]
    cases actual <;> simp [matchValue, pattern?, matchScalar, eq_comm (a := s)]
  | num n =>
    rw [matches_num_iff]
    cases actual with
    | num found =>
      rw [matchValue_num, Except.ite_eq_ok_iff]
      simp
    | null | bool | str | arr | obj => simp [matchValue, pattern?, matchScalar]
  | arr items ih =>
    rw [matches_arr_iff]
    cases actual with
    | arr found =>
      rw [matchValue_arr_eq_ok_iff]
      constructor
      · rintro ⟨hlength, hitems⟩
        refine ⟨found, rfl, hlength, fun i item value hitem hvalue => ?_⟩
        exact (ih item (List.mem_of_getElem? hitem)).mp (hitems i item value hitem hvalue)
      · rintro ⟨_, ⟨⟩, hlength, hitems⟩
        refine ⟨hlength, fun i item value hitem hvalue => ?_⟩
        exact (ih item (List.mem_of_getElem? hitem)).mpr (hitems i item value hitem hvalue)
    | null | bool | num | str | obj => simp [matchValue, pattern?, matchScalar]
  | obj entries ih =>
    cases hpattern : (obj entries).pattern? with
    | some pattern =>
      -- A pattern is tried before the object is looked at as one.
      obtain rfl := obj.inj (pattern?_eq_some_iff.mp hpattern)
      rw [matchValue_pattern hpattern, matchPattern_eq_ok_iff, matches_pattern_iff]
    | none =>
      rw [matches_obj_iff (pattern?_obj_eq_none_iff.mp hpattern)]
      cases actual with
      | obj found =>
        rw [matchValue_obj_eq_ok_iff hpattern]
        constructor
        · intro hentries
          refine ⟨found, rfl, fun entry hmem => ?_⟩
          obtain ⟨value, hfound, hvalue⟩ := hentries entry hmem
          exact ⟨value, hfound, (ih entry hmem).mp hvalue⟩
        · rintro ⟨_, ⟨⟩, hentries⟩ entry hmem
          obtain ⟨value, hfound, hvalue⟩ := hentries entry hmem
          exact ⟨value, hfound, (ih entry hmem).mpr hvalue⟩
      | null | bool | num | str | arr => simp [matchValue, hpattern, matchScalar]

end Json

theorem Predicate.check_value_eq_ok_iff {expected actual : Json} :
    Predicate.value.check expected actual = .ok () ↔ Matches expected actual :=
  Except.mapError_eq_ok_iff.trans Json.matchValue_eq_ok_iff

/-- **A value matches when the expected value describes it.** The check decides this at every
location, so that a pattern is one at every depth. Of all objects, only one with `$regex` and a
string, and nothing beside it, is a pattern; any other one asks for all its keys. -/
theorem check_value_decides_matches (expected actual : Json) :
    (Predicate.value.check expected actual = .ok () ↔ Matches expected actual) ∧
    (∀ location, Json.matchValue location expected actual = .ok () ↔ Matches expected actual) ∧
    (∀ location pattern,
      Json.matchValue location (.obj [("$regex", .str pattern)]) actual = .ok () ↔
        ∃ text expr, actual = .str text ∧ Pattern.compile pattern = .ok expr ∧
          expr.search text = true) ∧
    (∀ location entries, (∀ pattern, entries ≠ [("$regex", .str pattern)]) →
      (Json.matchValue location (.obj entries) actual = .ok () ↔
        ∃ found, actual = .obj found ∧ ∀ entry ∈ entries, ∃ value,
          Json.get? found entry.1 = some value ∧ Matches entry.2 value)) := by
  refine ⟨?_, fun location => Json.matchValue_eq_ok_iff, fun location pattern => ?_,
    fun location entries hplain => ?_⟩
  · exact Except.mapError_eq_ok_iff.trans Json.matchValue_eq_ok_iff
  · exact Json.matchValue_eq_ok_iff.trans matches_pattern_iff
  · exact Json.matchValue_eq_ok_iff.trans (matches_obj_iff hplain)

/-- An object with `$regex` and a key beside it is no pattern, and asks for both keys; the pattern
under the second one is one. -/
theorem check_value_decides_matches_of_cat :
    let entries : List (String × Json) :=
      [("$regex", .int 1), ("id", .obj [("$regex", .str "a+t$")])]
    let actual : Json := .obj [("id", .str "cat"), ("more", .null), ("$regex", .int 1)]
    (∀ pattern, entries ≠ [("$regex", .str pattern)]) ∧
      Predicate.value.check (.obj entries) actual = .ok () ∧ Matches (.obj entries) actual ∧
      ∃ found, actual = .obj found ∧ ∀ entry ∈ entries, ∃ value,
        Json.get? found entry.1 = some value ∧ Matches entry.2 value := by
  intro entries actual
  have hplain (pattern : String) : entries ≠ [("$regex", .str pattern)] := by simp [entries]
  have hcheck : Predicate.value.check (.obj entries) actual = .ok () := rfl
  obtain ⟨hmatches, -, -, hentries⟩ := check_value_decides_matches (.obj entries) actual
  exact ⟨hplain, hcheck, hmatches.mp hcheck, (hentries [] entries hplain).mp rfl⟩

end ResponseCheck
