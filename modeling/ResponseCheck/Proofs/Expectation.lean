import ResponseCheck.Proofs.Matching.Reordering
import ResponseCheck.Proofs.Resolution.Reordering

/-!
# When data meets an expectation

An expectation is met when the whole data is accepted, or when the data satisfies its path with
accepted values at the end. Acceptance is matching or conforming; neither of them depends on the
order of entries, so the verdict does not either.
-/

namespace ResponseCheck

open Json (Reordered Stable)

/-- The actual values that a predicate accepts for an expected one. -/
def Predicate.Accepts : Predicate → Json → Json → Prop
  | .value => Matches
  | .type => Conforms

theorem Predicate.check_eq_ok_iff {predicate : Predicate} {expected actual : Json} :
    predicate.check expected actual = .ok () ↔ predicate.Accepts expected actual := by
  cases predicate with
  | value => exact check_value_eq_ok_iff
  | type => exact Except.mapError_eq_ok_iff.trans Json.matchType_eq_ok_iff

theorem Predicate.Accepts.stable_actual (predicate : Predicate) (expected : Json) :
    Stable (predicate.Accepts expected) := by
  cases predicate with
  | value => exact Matches.stable_actual expected
  | type => exact Conforms.stable_actual expected

theorem Predicate.Accepts.stable_expected (predicate : Predicate) (actual : Json) :
    Stable (predicate.Accepts · actual) := by
  cases predicate with
  | value => exact Matches.stable_expected actual
  | type => exact Conforms.stable_expected actual

namespace Expectation

/-- The data that meets an expectation. -/
def IsMet (e : Expectation) (predicate : Predicate) (data : Json) : Prop :=
  match e.path with
  | none => predicate.Accepts e.expected data
  | some raw => ∃ path, Path.parse e.optional raw = .ok path ∧
      Satisfies path.optional (predicate.Accepts e.expected) path.segments data

variable {e : Expectation} {predicate : Predicate} {policy : Policy} {data : Json}

/-- The check of an expectation decides whether it is met, under either policy. -/
theorem check_eq_ok_iff_isMet :
    e.check predicate policy data = .ok () ↔ e.IsMet predicate data := by
  rw [check, Except.mapError_eq_ok_iff, verdict, IsMet]
  cases e.path with
  | none => exact Predicate.check_eq_ok_iff
  | some raw =>
    dsimp only
    cases Path.parse e.optional raw with
    | error mismatch => simp [bind, Except.bind]
    | ok path =>
      have haccepts : predicate.Accepts e.expected =
          fun actual => predicate.check e.expected actual = .ok () :=
        funext fun actual => propext Predicate.check_eq_ok_iff.symm
      simp only [Except.ok.injEq, exists_eq_left', haccepts]
      exact verdictFrom_eq_ok_iff

variable {path : Option String} {optional : Bool}

theorem isMet_stable_data (expected : Json) :
    Stable (IsMet ⟨path, optional, expected⟩ predicate) := by
  have haccepts := Predicate.Accepts.stable_actual predicate expected
  cases path with
  | none => exact haccepts
  | some raw =>
    rintro data data' hdata h ⟨path, hparse, hsatisfied⟩
    exact ⟨path, hparse, Satisfies.stable haccepts path.segments hdata h hsatisfied⟩

theorem isMet_stable_expected (data : Json) :
    Stable fun expected => IsMet ⟨path, optional, expected⟩ predicate data := by
  cases path with
  | none => exact Predicate.Accepts.stable_expected predicate data
  | some raw =>
    rintro expected expected' hexpected h ⟨path, hparse, hsatisfied⟩
    have haccepts (actual : Json) :=
      Predicate.Accepts.stable_expected predicate actual hexpected h
    exact ⟨path, hparse, hsatisfied.mono haccepts⟩

end Expectation

/-- **The order of entries is of no account.** Where the entries of any objects in the data stand in
another order, and those of any objects in the expected value, the verdict is the same: for each
predicate and policy, and with a path or without. Objects do not repeat a name. -/
theorem check_reordered_eq_ok_iff (path : Option String) (optional : Bool) (predicate : Predicate)
    (policy : Policy) {expected expected' data data' : Json} (hexpected : expected.WellFormed)
    (hdata : data.WellFormed) (horder : Reordered expected expected')
    (horderData : Reordered data data') :
    Expectation.check ⟨path, optional, expected⟩ predicate policy data = .ok () ↔
      Expectation.check ⟨path, optional, expected'⟩ predicate policy data' = .ok () := by
  rw [Expectation.check_eq_ok_iff_isMet, Expectation.check_eq_ok_iff_isMet]
  calc Expectation.IsMet ⟨path, optional, expected⟩ predicate data
    _ ↔ Expectation.IsMet ⟨path, optional, expected⟩ predicate data' :=
      (Expectation.isMet_stable_data expected).iff_of_reordered hdata horderData
    _ ↔ Expectation.IsMet ⟨path, optional, expected'⟩ predicate data' :=
      (Expectation.isMet_stable_expected data').iff_of_reordered hexpected horder

/-- A wildcard meets its elements in another order, and an element its names. -/
theorem check_reordered_eq_ok_iff_of_swaps :
    let expected : Json := .obj [("id", .int 1), ("tag", .obj [("$regex", .str "^x")])]
    let expected' : Json := .obj [("tag", .obj [("$regex", .str "^x")]), ("id", .int 1)]
    let first : Json := .obj [("tag", .str "xy"), ("id", .int 1)]
    let first' : Json := .obj [("id", .int 1), ("tag", .str "xy")]
    let data : Json := .arr [.null, .obj [("a", first), ("b", .int 2)]]
    let data' : Json := .arr [.null, .obj [("b", .int 2), ("a", first')]]
    expected.WellFormed ∧ data.WellFormed ∧ Reordered expected expected' ∧ Reordered data data' ∧
      Expectation.check ⟨some "1.?", false, expected⟩ .value .mostRecent data = .ok () ∧
      Expectation.check ⟨some "1.?", false, expected'⟩ .value .mostRecent data' = .ok () := by
  intro expected expected' first first' data data'
  have hexpected : expected.WellFormed := by
    simp [expected, Json.WellFormed, Json.WellFormedEntries, Json.int, Json.Number.Fits]
  have hdata : data.WellFormed := by
    simp [data, first, Json.WellFormed, Json.WellFormedItems, Json.WellFormedEntries, Json.int,
      Json.Number.Fits]
  have horder : Reordered expected expected' := .single (.here (.swap ..))
  have hinner : Json.Reorders data (.arr [.null, .obj [("a", first'), ("b", .int 2)]]) :=
    .item [.null] [] (.entry [] [("b", .int 2)] "a" (.here (.swap ..)))
  have houter : Json.Reorders (.arr [.null, .obj [("a", first'), ("b", .int 2)]]) data' :=
    .item [.null] [] (.here (.swap ..))
  have horderData : Reordered data data' := .tail (.single hinner) houter
  have hcheck :
      Expectation.check ⟨some "1.?", false, expected⟩ .value .mostRecent data = .ok () := rfl
  exact ⟨hexpected, hdata, horder, horderData, hcheck,
    (check_reordered_eq_ok_iff (some "1.?") false .value .mostRecent hexpected hdata horder
      horderData).mp hcheck⟩

end ResponseCheck
