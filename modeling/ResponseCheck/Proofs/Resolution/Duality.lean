import ResponseCheck.Expectation
import ResponseCheck.Proofs.Resolution.Reach
import ResponseCheck.Proofs.Resolution.Satisfaction

/-!
# Dual paths

Swapping the two wildcards of a path swaps its quantifiers. Where every branch of the path leads to
its end, a value passes the path if and only if it fails the dual path with the opposite check. So
an empty container, which passes under `*`, has to fail under `?`, at every depth.
-/

namespace ResponseCheck

/-- The other quantifier. -/
def Quantifier.dual : Quantifier → Quantifier
  | .all => .one
  | .one => .all

/-- The segment with the other quantifier, if it is a wildcard. -/
def Segment.dual : Segment → Segment
  | .literal key => .literal key
  | .wildcard quantifier => .wildcard quantifier.dual

/-- The path with its wildcards swapped. -/
def Path.dual (path : Path) : Path := { path with segments := path.segments.map Segment.dual }

/-- Whether a segment leads on from a value: a key is there, or a wildcard has a container to range
over, which may be empty. -/
def Segment.LeadsOn : Segment → Json → Prop
  | .literal key, value => ∃ next, value.step key = .ok next
  | .wildcard _, value => value.IsContainer

/-- Every branch of a path leads to its end. -/
def Navigates : List Segment → Json → Prop := OnBranches Segment.LeadsOn

variable {optional : Bool} {accepts accepts' : Json → Prop} {segments : List Segment} {value : Json}

/-- Where every branch leads to its end, the dual segments are satisfied if and only if the segments
are not. -/
theorem satisfies_dual_iff (haccepts : ∀ v, accepts' v ↔ ¬ accepts v)
    (hnavigates : Navigates segments value) :
    Satisfies optional accepts' (segments.map Segment.dual) value ↔
      ¬ Satisfies optional accepts segments value := by
  induction segments generalizing value with
  | nil => exact haccepts value
  | cons segment rest ih =>
    obtain ⟨hleads, hrest⟩ := onBranches_cons_iff.mp hnavigates
    cases segment with
    | literal key =>
      obtain ⟨next, hstep⟩ := hleads
      have hnull : (optional && value.isNull) = false := not_null_of_step hstep
      have hnext := ih (hrest next (mem_reached_key hstep))
      rw [List.map_cons, Segment.dual, satisfies_literal_iff hnull, satisfies_literal_iff hnull]
      simpa [hstep] using hnext
    | wildcard quantifier =>
      obtain ⟨elements, helements⟩ : ∃ elements, value.elements? = some elements :=
        Option.ne_none_iff_exists'.mp fun hnone => Json.not_isContainer_of_elements? hnone hleads
      have hnull : (optional && value.isNull) = false := not_null_of_elements? helements
      have helement (element : Json) (hmem : element ∈ elements) :
          Satisfies optional accepts' (rest.map Segment.dual) element ↔
            ¬ Satisfies optional accepts rest element :=
        ih (hrest element (mem_reached_element ((Json.mem_elements?_iff helements).mp hmem)))
      rw [List.map_cons, Segment.dual]
      -- De Morgan's laws, which hold without elements as well: there `*` passes and `?` fails.
      cases quantifier with
      | all =>
        rw [Quantifier.dual, satisfies_one_iff hnull helements, satisfies_all_iff hnull helements]
        simp only [not_forall, exists_prop]
        exact exists_congr fun element => and_congr_right (helement element)
      | one =>
        rw [Quantifier.dual, satisfies_all_iff hnull helements, satisfies_one_iff hnull helements]
        simp only [not_exists, not_and]
        exact forall₂_congr helement

/-- **`*` and `?` are dual.** Where every branch of a path leads to its end, a value passes the path
if and only if it fails the dual path with a check that accepts what the other one refuses. Neither
the policies nor empty containers make a difference, and as no branch comes to a null before its
end, the path may be optional. -/
theorem dual_path_fails_iff {path : Path} {check check' : Json → Verdict} {value : Json}
    (hnavigates : Navigates path.segments value)
    (hcheck : ∀ v, check' v = .ok () ↔ check v ≠ .ok ()) (policy policy' : Policy) :
    path.resolve policy check value = .ok () ↔
      ∃ mismatch, path.dual.resolve policy' check' value = .error mismatch := by
  have hdual : path.dual.resolve policy' check' value = .ok () ↔
      ¬ path.resolve policy check value = .ok () := by
    rw [Path.resolve_eq_verdictFrom, Path.resolve_eq_verdictFrom, verdictFrom_eq_ok_iff,
      verdictFrom_eq_ok_iff]
    exact satisfies_dual_iff hcheck hnavigates
  rw [← not_iff_not, ← hdual]
  cases path.dual.resolve policy' check' value <;> simp

/-- One group has a zero and the other one is empty, so that in some group all items differ from
zero. Hence not every group has a zero. -/
theorem dual_path_fails_iff_of_empty :
    let path : Path := ⟨[.literal "a", .wildcard .one, .wildcard .all], false⟩
    let dual : Path := ⟨[.literal "a", .wildcard .all, .wildcard .one], false⟩
    let isZero := Predicate.check .value (.int 0)
    let differs : Json → Verdict := fun v =>
      if (isZero v).isOk then .error (.rejected ⟨.differs v, [], v⟩) else .ok ()
    let value : Json := .obj [("a", .arr [.obj [("b", .int 0)], .arr []])]
    Navigates path.segments value ∧ (∀ v, isZero v = .ok () ↔ differs v ≠ .ok ()) ∧
      path.resolve .collectAll differs value = .ok () ∧ path.dual = dual ∧
      ∃ mismatch, dual.resolve .mostRecent isZero value = .error mismatch := by
  intro path dual isZero differs value
  have hnavigates : Navigates path.segments value := by
    simp [path, value, Navigates, onBranches_cons_iff, onBranches_nil, reached, Segment.LeadsOn,
      Json.step, Json.child?, Json.get?, Json.IsContainer]
  have hcheck (v : Json) : isZero v = .ok () ↔ differs v ≠ .ok () := by
    rcases hzero : isZero v with mismatch | ⟨⟩ <;>
      simp [differs, hzero, Except.isOk, Except.toBool]
  have hpasses : path.resolve .collectAll differs value = .ok () := rfl
  exact ⟨hnavigates, hcheck, hpasses, rfl,
    (dual_path_fails_iff hnavigates hcheck .collectAll .mostRecent).mp hpasses⟩

end ResponseCheck
