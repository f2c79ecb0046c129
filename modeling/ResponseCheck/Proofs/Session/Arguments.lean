import ResponseCheck.Proofs.Json.Entries
import ResponseCheck.Proofs.Session.Basic
import ResponseCheck.Proofs.Http.Headers

/-!
# The arguments that a failure shows

The failure of an expectation shows its arguments first. An expectation about the body has them as
they were given, whatever the failure. One about headers is checked with small names, and these are
the arguments that it shows; without a response it shows none.
-/

namespace ResponseCheck

open Text (asciiLower)

/-- The names of headers in an expectation are small: its path, or else the names that it lists. -/
def Expectation.NamesSmall (expectation : Expectation) : Prop :=
  match expectation.path, expectation.expected with
  | some path, _ => asciiLower path = path
  | none, .obj entries => ∀ entry ∈ entries, asciiLower entry.1 = entry.1
  | none, _ => True

theorem Expectation.frames_of_check_eq_error {expectation : Expectation} {predicate : Predicate}
    {policy : Policy} {data : Json} {failure : Failure}
    (h : expectation.check predicate policy data = .error failure) :
    failure.frames.head? = some (.arguments expectation.toJson) := by
  obtain ⟨mismatch, -, rfl⟩ := Except.mapError_eq_error_iff.mp h
  rfl

namespace Session

variable {session : Session} {predicate : Predicate} {expectation : Expectation}
  {failure : Failure}

/-- An expectation about the body shows its arguments as they were given. -/
theorem frames_of_expectJson_eq_error
    (h : session.expectJson predicate expectation = .error failure) :
    failure.frames.head? = some (.arguments expectation.toJson) := by
  rcases Except.bind_eq_error_iff.mp h with hjson | ⟨body, -, hcheck⟩
  · obtain ⟨undecoded, hundecoded, rfl⟩ := Except.mapError_eq_error_iff.mp hjson
    rw [Failure.withFrame, frames_of_json_eq_error hundecoded]
    rfl
  · exact Expectation.frames_of_check_eq_error hcheck

/-- An expectation about headers shows its arguments with small names, if there is a response. -/
theorem frames_of_expectHeader_eq_error
    (h : session.expectHeader predicate expectation = .error failure) :
    failure.frames.head? =
      session.exchange.map fun _ => .arguments (foldHeaderNames expectation).toJson := by
  unfold expectHeader response at h
  cases hexchange : session.exchange with
  | none =>
    rw [hexchange] at h
    cases h
    rfl
  | some exchange =>
    rw [hexchange] at h
    exact Expectation.frames_of_check_eq_error h

/-- An expectation about the status shows it, if there is a response. -/
theorem frames_of_expectStatus_eq_error {expected : Http.Status}
    (h : session.expectStatus expected = .error failure) :
    failure.frames.head? =
      session.exchange.map fun _ => .arguments (.arr [.int expected.val]) := by
  unfold expectStatus response at h
  cases hexchange : session.exchange with
  | none =>
    rw [hexchange] at h
    cases h
    rfl
  | some exchange =>
    rw [hexchange] at h
    change (if exchange.response.status = expected then _ else _) = _ at h
    split at h <;> cases h
    rfl

/-! ### Names that stay as they are -/

theorem lowerKeys_obj_eq_self_iff {entries : List (String × Json)}
    (hnames : (entries.map Prod.fst).Nodup) :
    lowerKeys (.obj entries) = .obj entries ↔ ∀ entry ∈ entries, asciiLower entry.1 = entry.1 := by
  rw [lowerKeys, Json.object, Json.obj.injEq]
  constructor
  · intro h entry hmem
    rw [← h] at hmem
    obtain ⟨before, after, hsplit, -⟩ := Json.mem_collapse_iff.mp hmem
    obtain ⟨given, -, hgiven⟩ := List.mem_map.mp
      (hsplit ▸ List.mem_append_right before List.mem_cons_self)
    rw [← congrArg Prod.fst hgiven]
    exact Text.asciiLower_asciiLower given.1
  · intro h
    have hsmall : entries.map (fun entry => (asciiLower entry.1, entry.2)) = entries.map id :=
      List.map_congr_left fun entry hmem => Prod.ext (h entry hmem) rfl
    rw [List.map_id] at hsmall
    exact (congrArg Json.collapse hsmall).trans (Json.collapse_of_nodup hnames)

theorem toJson_foldHeaderNames_eq_iff (h : expectation.expected.WellFormed) :
    (foldHeaderNames expectation).toJson = expectation.toJson ↔ expectation.NamesSmall := by
  obtain ⟨path, optional, expected⟩ := expectation
  cases path with
  | some path =>
    cases optional <;> simp [foldHeaderNames, Expectation.toJson, Expectation.NamesSmall]
  | none =>
    have hiff : (foldHeaderNames ⟨none, optional, expected⟩).toJson =
        (⟨none, optional, expected⟩ : Expectation).toJson ↔ lowerKeys expected = expected := by
      cases optional <;> simp [foldHeaderNames, Expectation.toJson]
    rw [hiff]
    cases expected with
    | obj entries => exact lowerKeys_obj_eq_self_iff (Json.wellFormed_obj_iff.mp h).1
    | _ => exact iff_of_true rfl trivial

end Session

end ResponseCheck
