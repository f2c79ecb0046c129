import ResponseCheck.Proofs.Expectation
import ResponseCheck.Proofs.Http.Response
import ResponseCheck.Session

/-!
# Expecting headers

An expectation on the headers of a response lists names in any letter case. To compare them with the
small names of the response, the session makes them small; of names that become equal it keeps the
last one. So the check asks for every listed header if no two names are equal up to letter case, and
otherwise for the last one of each.
-/

namespace ResponseCheck

open Text (asciiLower)

/-! ### Headers in any letter case -/

namespace Http.Response

/-- A header with a given name in any letter case, and a value as asked. -/
def HasHeader (response : Response) (name : String) (asked : Json → Prop) : Prop :=
  ∃ header ∈ response.headers.entries,
    asciiLower header.1 = asciiLower name ∧ asked (.str header.2)

variable {response : Response}

/-- In a received response, a header is found under its small name. -/
theorem Received.hasHeader_iff (h : response.Received) {name : String} {asked : Json → Prop} :
    response.HasHeader name asked ↔
      ∃ value, response.header? name = some value ∧ asked (.str value) := by
  constructor
  · rintro ⟨⟨other, value⟩, hmem, hname, hasked⟩
    rw [h.small _ hmem] at hname
    exact ⟨value, Headers.get?_eq_some_iff.mpr (hname ▸ hmem), hasked⟩
  · rintro ⟨value, hvalue, hasked⟩
    exact ⟨_, Headers.get?_eq_some_iff.mp hvalue, Text.asciiLower_asciiLower name, hasked⟩

end Http.Response

/-! ### Names that are made small -/

/-- The entries whose name is not listed again, in any letter case. -/
def IsLastOfName (entries : List (String × Json)) (entry : String × Json) : Prop :=
  ∃ before after, entries = before ++ entry :: after ∧
    ∀ later ∈ after, asciiLower entry.1 ≠ asciiLower later.1

section

variable {entries : List (String × Json)} {entry : String × Json}

theorem IsLastOfName.mem (h : IsLastOfName entries entry) : entry ∈ entries := by
  obtain ⟨before, after, rfl, -⟩ := h
  exact List.mem_append_right _ List.mem_cons_self

/-- If no two names are equal up to letter case, every entry is the last of its name. -/
theorem isLastOfName_iff_mem (h : (entries.map fun entry => asciiLower entry.1).Nodup) :
    IsLastOfName entries entry ↔ entry ∈ entries := by
  refine ⟨IsLastOfName.mem, fun hmem => ?_⟩
  obtain ⟨before, after, rfl⟩ := List.append_of_mem hmem
  refine ⟨before, after, rfl, fun later hlater hname => ?_⟩
  rw [List.map_append, List.map_cons, List.nodup_middle, List.nodup_cons, List.mem_append,
    not_or] at h
  exact h.1.2 (List.mem_map.mpr ⟨later, hlater, hname.symm⟩)

/-- What holds of all entries with small names. -/
theorem forall_mem_collapse_iff {p : String → Json → Prop} :
    (∀ small ∈ Json.collapse (entries.map fun (name, value) => (asciiLower name, value)),
        p small.1 small.2) ↔
      ∀ entry, IsLastOfName entries entry → p (asciiLower entry.1) entry.2 := by
  constructor
  · rintro h ⟨name, value⟩ ⟨before, after, rfl, hlater⟩
    refine h (asciiLower name, value) (Json.mem_collapse_iff.mpr ⟨_, _, List.map_append, ?_⟩)
    intro small hsmall
    obtain ⟨later, hmem, rfl⟩ := List.mem_map.mp hsmall
    exact hlater later hmem
  · rintro h ⟨name, value⟩ hmem
    obtain ⟨before, after, hsplit, hlater⟩ := Json.mem_collapse_iff.mp hmem
    obtain ⟨before, rest, rfl, rfl, hrest⟩ := List.map_eq_append_iff.mp hsplit
    obtain ⟨entry, after, rfl, hentry, rfl⟩ := List.map_eq_cons_iff.mp hrest
    obtain ⟨rfl, rfl⟩ := Prod.mk.inj hentry
    refine h entry ⟨before, after, rfl, fun later hmem => ?_⟩
    exact hlater (asciiLower later.1, later.2) (List.mem_map.mpr ⟨later, hmem, rfl⟩)

end

/-! ### What is checked -/

section

variable {session : Session} {response : Http.Response} {entries : List (String × Json)}
  {optional : Bool}

/-- The headers of the last response are checked under small names. -/
theorem Session.expectHeader_eq_ok_iff_isMet {predicate : Predicate} {e : Expectation}
    (hresponse : session.response = .ok response) :
    session.expectHeader predicate e = .ok () ↔
      (foldHeaderNames e).IsMet predicate response.headers.toJson := by
  rw [expectHeader, hresponse]
  exact Expectation.check_eq_ok_iff_isMet

/-- The headers of the last response are checked against the object of small names. -/
theorem Session.expectHeader_eq_ok_iff {predicate : Predicate} {expected : Json}
    (hresponse : session.response = .ok response) :
    session.expectHeader predicate ⟨none, optional, expected⟩ = .ok () ↔
      predicate.Accepts (lowerKeys expected) response.headers.toJson :=
  expectHeader_eq_ok_iff_isMet hresponse

/-- Headers are as expected if they match the last entry of each name. -/
theorem Session.expectHeader_value_iff (hresponse : session.response = .ok response)
    (hreceived : response.Received)
    (hplain : ∀ pattern, lowerKeys (.obj entries) ≠ .obj [("$regex", .str pattern)]) :
    session.expectHeader .value ⟨none, optional, .obj entries⟩ = .ok () ↔
      ∀ entry, IsLastOfName entries entry → response.HasHeader entry.1 (Matches entry.2) := by
  have hobject (pattern : String) := fun h => hplain pattern (congrArg Json.obj h)
  simp only [hreceived.hasHeader_iff, Http.Response.header?]
  rw [expectHeader_eq_ok_iff hresponse,
    ← forall_mem_collapse_iff (p := fun name expected =>
      ∃ value, response.headers.get? name = some value ∧ Matches expected (.str value))]
  refine (matches_obj_iff hobject).trans ?_
  simp [Http.Headers.toJson, Http.Headers.get?_toJson]

/-- Headers are of the expected types if they conform to the last entry of each name, or are absent
where they may be. -/
theorem Session.expectHeader_type_iff (hresponse : session.response = .ok response)
    (hreceived : response.Received) :
    session.expectHeader .type ⟨none, optional, .obj entries⟩ = .ok () ↔
      ∀ entry, IsLastOfName entries entry →
        response.HasHeader entry.1 (Conforms entry.2) ∨
          (¬ response.HasHeader entry.1 fun _ => True) ∧ AdmitsAbsence entry.2 := by
  simp only [hreceived.hasHeader_iff, Http.Response.header?, and_true, not_exists]
  rw [expectHeader_eq_ok_iff hresponse,
    ← forall_mem_collapse_iff (p := fun name expected =>
      (∃ value, response.headers.get? name = some value ∧ Conforms expected (.str value)) ∨
        (∀ value, ¬ response.headers.get? name = some value) ∧ AdmitsAbsence expected)]
  refine conforms_obj_iff.trans ?_
  simp [Http.Headers.toJson, Http.Headers.get?_toJson, Option.eq_none_iff_forall_ne_some]

/-- If no two names are equal up to letter case, a list that is no pattern makes none. -/
theorem lowerKeys_ne_pattern (hnames : (entries.map fun entry => asciiLower entry.1).Nodup)
    (hplain : ∀ name pattern, entries = [(name, .str pattern)] → asciiLower name ≠ "$regex")
    (pattern : String) : Session.lowerKeys (.obj entries) ≠ .obj [("$regex", .str pattern)] := by
  intro h
  have hsmall :
      ((entries.map fun (name, value) => (asciiLower name, value)).map Prod.fst).Nodup := by
    rwa [List.map_map]
  rw [Session.lowerKeys, Json.object, Json.collapse_of_nodup hsmall, Json.obj.injEq,
    List.map_eq_singleton_iff] at h
  obtain ⟨⟨name, value⟩, rfl, hentry⟩ := h
  obtain ⟨hname, rfl⟩ := Prod.mk.inj hentry
  exact hplain name pattern rfl hname

end

/-- **The last entry of each name is checked.** In any received response, the headers match the
last entry of each name, whatever its letter case, and no other: a header with that name must be
there, and its value must match; where types are expected it must conform, or may be absent under a
specification with a question mark. So if no two of the names listed are equal up to letter case,
every entry is checked. -/
theorem header_expectation_checks_last_entries {session : Session} {response : Http.Response}
    (hresponse : session.response = .ok response) (hreceived : response.Received)
    (entries : List (String × Json)) (optional : Bool) :
    ((∀ pattern, Session.lowerKeys (.obj entries) ≠ .obj [("$regex", .str pattern)]) →
      (session.expectHeader .value ⟨none, optional, .obj entries⟩ = .ok () ↔
        ∀ entry, IsLastOfName entries entry → response.HasHeader entry.1 (Matches entry.2))) ∧
    (session.expectHeader .type ⟨none, optional, .obj entries⟩ = .ok () ↔
      ∀ entry, IsLastOfName entries entry →
        response.HasHeader entry.1 (Conforms entry.2) ∨
          (¬ response.HasHeader entry.1 fun _ => True) ∧ AdmitsAbsence entry.2) ∧
    ((entries.map fun entry => asciiLower entry.1).Nodup →
      (∀ name pattern, entries = [(name, .str pattern)] → asciiLower name ≠ "$regex") →
        (session.expectHeader .value ⟨none, optional, .obj entries⟩ = .ok () ↔
          ∀ entry ∈ entries, response.HasHeader entry.1 (Matches entry.2)) ∧
        (session.expectHeader .type ⟨none, optional, .obj entries⟩ = .ok () ↔
          ∀ entry ∈ entries,
            response.HasHeader entry.1 (Conforms entry.2) ∨
              (¬ response.HasHeader entry.1 fun _ => True) ∧ AdmitsAbsence entry.2)) := by
  refine ⟨Session.expectHeader_value_iff hresponse hreceived,
    Session.expectHeader_type_iff hresponse hreceived, fun hnames hplain => ?_⟩
  simp only [← isLastOfName_iff_mem hnames]
  exact ⟨Session.expectHeader_value_iff hresponse hreceived (lowerKeys_ne_pattern hnames hplain),
    Session.expectHeader_type_iff hresponse hreceived⟩

/-- The names are listed in another order and other letter cases than the response has them. -/
theorem header_expectation_checks_last_entries_of_dates :
    let response : Http.Response := .make 200 (.ofList [("Date", "today"), ("X-A", "2")]) []
    let session : Session := { exchange := some ⟨none, response⟩ }
    let entries : List (String × Json) :=
      [("x-A", .str "2"), ("DATE", .obj [("$regex", .str "^t")])]
    session.response = .ok response ∧ response.Received ∧
      (entries.map fun entry => asciiLower entry.1).Nodup ∧
      (∀ name pattern, entries = [(name, .str pattern)] → asciiLower name ≠ "$regex") ∧
      session.expectHeader .value ⟨none, false, .obj entries⟩ = .ok () ∧
      ∀ entry ∈ entries, response.HasHeader entry.1 (Matches entry.2) := by
  intro response session entries
  have hresponse : session.response = .ok response := rfl
  have hreceived : response.Received := .made ..
  have hsmall : (entries.map fun entry => asciiLower entry.1) = ["x-a", "date"] := by cbv
  have hnames : (entries.map fun entry => asciiLower entry.1).Nodup := by simp [hsmall]
  have hplain (name pattern : String) (h : entries = [(name, .str pattern)]) :
      asciiLower name ≠ "$regex" := by simp [entries] at h
  have hcheck : session.expectHeader .value ⟨none, false, .obj entries⟩ = .ok () := by cbv
  obtain ⟨-, -, hall⟩ := header_expectation_checks_last_entries hresponse hreceived entries false
  exact ⟨hresponse, hreceived, hnames, hplain, hcheck, (hall hnames hplain).1.mp hcheck⟩

/-- An entry is dropped, and so never missed, when its name is listed again in another case. -/
theorem header_expectation_drops_entry :
    let response : Http.Response := .make 200 (.ofList [("x-a", "2")]) []
    let session : Session := { exchange := some ⟨none, response⟩ }
    let entries : List (String × Json) := [("X-A", .str "1"), ("x-a", .str "2")]
    session.expectHeader .value ⟨none, false, .obj entries⟩ = .ok () ∧
      ¬ ∀ entry ∈ entries, response.HasHeader entry.1 (Matches entry.2) := by
  intro response session entries
  have hcheck : session.expectHeader .value ⟨none, false, .obj entries⟩ = .ok () := by cbv
  have hheaders : response.headers.entries = [("x-a", "2")] := by cbv
  refine ⟨hcheck, fun hall => ?_⟩
  obtain ⟨header, hmem, -, hmatches⟩ := hall ("X-A", .str "1") List.mem_cons_self
  rw [hheaders, List.mem_singleton] at hmem
  subst hmem
  rw [matches_str_iff] at hmatches
  simp at hmatches

end ResponseCheck
