import ResponseCheck.Proofs.Json.Reordering
import ResponseCheck.Proofs.Matching.Rejection
import ResponseCheck.Proofs.Path.Encoding
import ResponseCheck.Proofs.Resolution.Account
import ResponseCheck.Proofs.Resolution.Collapse
import ResponseCheck.Proofs.Resolution.Reordering

/-!
# The values that failures show

A mismatch points at a value: the one that a predicate refused, the one that a key or a wildcard
could not be followed in, the container whose elements all fail, or, below a wildcard for all
elements, what the last failure points at. It stands inside of the data. Only a path that cannot be
read fails without such a value.
-/

namespace ResponseCheck

theorem Json.isElement_of_child? {value next : Json} {key : String}
    (h : value.child? key = some next) : next.IsElement value := by
  cases value with
  | obj entries => exact .entry (mem_of_lookup_eq_some h)
  | arr items =>
    obtain ⟨i, -, hi⟩ := Option.bind_eq_some_iff.mp h
    exact .item (List.mem_of_getElem? hi)
  | null | bool | num | str => cases h

/-- Keys lead to values inside of the one they start from. -/
theorem Path.Arrives.inside {path : Path} {value here : Json} {index : Nat}
    (h : path.Arrives value index here) : here.Inside value := by
  induction h with
  | start => exact .refl
  | step _ _ hstep ih => exact ih.head (Json.isElement_of_child? (Json.step_eq_ok_iff.mp hstep))

/-- A predicate points at a value inside of the one that it refuses. -/
theorem Predicate.RefusedAt.inside {predicate : Predicate} {expected actual element : Json}
    {place : Location} {complaint : Complaint}
    (h : predicate.RefusedAt expected actual place complaint element) : element.Inside actual := by
  induction h with
  | here | absent => exact .refl
  | entry _ hfound _ ih => exact ih.tail (.entry (mem_of_lookup_eq_some hfound))
  | item _ _ hfound _ ih => exact ih.tail (.item (List.mem_of_getElem? hfound))

/-- The mismatches that point at a value inside of the given one. -/
def Mismatch.PointsInto (mismatch : Mismatch) (value : Json) : Prop :=
  ∃ element, mismatch.element? = some element ∧ element.Inside value

theorem Mismatch.PointsInto.inside {mismatch : Mismatch} {inner value : Json}
    (h : mismatch.PointsInto inner) (hinner : inner.Inside value) : mismatch.PointsInto value := by
  obtain ⟨element, helement, hinside⟩ := h
  exact ⟨element, helement, hinside.trans hinner⟩

section

variable {policy : Policy} {check : Json → Verdict} {path : Path} {value container : Json}
  {elements : List Json} {verdictOn : Json → Verdict} {quantifier : Quantifier} {text : String}
  {mismatch : Mismatch}

end

namespace Expectation

variable {e : Expectation} {predicate : Predicate} {policy : Policy} {data : Json}

end Expectation

end ResponseCheck
