import ResponseCheck.Proofs.Path.SubPath
import ResponseCheck.Proofs.Resolution.Account
import ResponseCheck.Proofs.Resolution.Collapse

/-!
# Paths in mismatches

Below a wildcard, the path that is left is resolved as it is, without being read again. A mismatch
from there names this path by its text. A reader who reads the text gets the same path back, and
finds it in the text of the whole path after the dot of a wildcard.
-/

namespace ResponseCheck

namespace Mismatch

/-- The path that a mismatch names, those inside of it apart. -/
def path? : Mismatch → Option String
  | .invalidPath path => some path
  | .navigation _ _ => none
  | .notContainer path _ => some path
  | .allFailed path _ _ _ => some path
  | .allFailures path _ _ => some path
  | .noneMatched path _ _ _ => some path
  | .rejected _ => none

/-- A mismatch itself, and those that it keeps of elements, at every depth. -/
inductive Within (inner : Mismatch) : Mismatch → Prop
  | self : Within inner inner
  | last {path : String} {total failed : Nat} {failure : Mismatch} (h : Within inner failure) :
      Within inner (.allFailed path total failed failure)
  | failure {path : String} {total : Nat} {failures : List Mismatch} {failure : Mismatch}
      (hmem : failure ∈ failures) (h : Within inner failure) :
      Within inner (.allFailures path total failures)

end Mismatch

/-- The resolutions that take place when a path of a value is resolved: this one, and below a
wildcard that the keys lead to those of the path that is left, one on each element. -/
inductive Path.Starts : Path → Json → Path → Json → Prop
  | self {path : Path} {value : Json} : Path.Starts path value path value
  | element {path sub : Path} {value container element here : Json} {index : Nat}
      {quantifier : Quantifier} {elements : List Json}
      (harrives : path.Arrives value index container)
      (hwildcard : path.segments[index]? = some (.wildcard quantifier))
      (helements : container.elements? = some elements) (hmem : element ∈ elements)
      (h : Path.Starts (path.subPath index) element sub here) : Path.Starts path value sub here

variable {policy : Policy} {check : Json → Verdict} {path sub : Path} {value here : Json}
  {mismatch inner : Mismatch} {text : String}

/-- A path that is resolved is the whole path, or what is left of it after a wildcard. -/
theorem Path.Starts.eq_or_subPath (h : path.Starts value sub here) :
    sub = path ∨ ∃ index quantifier,
      path.segments[index]? = some (.wildcard quantifier) ∧ sub = path.subPath index := by
  induction h with
  | self => exact .inl rfl
  | @element path sub value container element here index quantifier elements _ hwildcard _ _ _ ih =>
    refine .inr ?_
    rcases ih with rfl | ⟨later, other, hlater, rfl⟩
    · exact ⟨index, quantifier, hwildcard, rfl⟩
    · -- A wildcard of what is left is a later one of the whole path.
      refine ⟨index + later + 1, other, ?_, path.subPath_subPath index later⟩
      rw [subPath, List.getElem?_drop] at hlater
      rwa [Nat.add_right_comm]

/-- What a wildcard tells is that its own path failed, or is inside of a failure of an element. -/
theorem Tells.path?_or_within {container : Json} {elements : List Json} {verdictOn : Json → Verdict}
    {quantifier : Quantifier} {own : String}
    (h : Tells policy own container elements verdictOn quantifier mismatch)
    (hwithin : inner.Within mismatch) :
    (inner = mismatch ∧ mismatch.path? = some own) ∨
      ∃ element ∈ elements, ∃ below, verdictOn element = .error below ∧ inner.Within below := by
  cases h with
  | none => cases hwithin with | self => exact .inl ⟨rfl, rfl⟩
  | last _ _ _ _ helements hfailure _ =>
    cases hwithin with
    | self => exact .inl ⟨rfl, rfl⟩
    | last hlast =>
      exact .inr ⟨_, helements ▸ List.mem_append_right _ List.mem_cons_self, _, hfailure, hlast⟩
  | every _ hfailures _ =>
    cases hwithin with
    | self => exact .inl ⟨rfl, rfl⟩
    | failure hmem hfailure =>
      rw [hfailures] at hmem
      obtain ⟨element, helement, hverdict⟩ := List.mem_filterMap.mp hmem
      exact .inr ⟨element, helement, _, Verdict.failure?_eq_some_iff.mp hverdict, hfailure⟩

/-- A path that is named in a mismatch is one that was being resolved, and the mismatch that names
it is what came of that. -/
theorem Accounts.exists_starts (hcheck : Rejecting check)
    (h : Accounts policy check path value mismatch)
    (hresolve : path.resolve policy check value = .error mismatch)
    (hwithin : inner.Within mismatch) (hpath : inner.path? = some text) :
    ∃ sub here, path.Starts value sub here ∧ sub.resolve policy check here = .error inner ∧
      sub.text = text := by
  -- On what came of the resolution: a mismatch of an element is what its own resolution came to.
  induction h generalizing inner with
  | refused _ _ hrefused =>
    -- The check names no paths.
    obtain ⟨rejection, rfl⟩ := hcheck _ _ hrefused
    cases hwithin with | self => cases hpath
  | noChild => cases hwithin with | self => cases hpath
  | noElements =>
    cases hwithin with
    | self =>
      cases hpath
      exact ⟨_, _, .self, hresolve, rfl⟩
  | elements harrives hwildcard helements htells _ ih =>
    rcases htells.path?_or_within hwithin with ⟨rfl, hown⟩ | ⟨element, hmem, below, hbelow, hinner⟩
    · cases hown.symm.trans hpath
      exact ⟨_, _, .self, hresolve, rfl⟩
    · obtain ⟨sub, here, hstarts, hsub, htext⟩ := ih element hmem below hbelow hbelow hinner hpath
      exact ⟨sub, here, .element harrives hwildcard helements hmem hstarts, hsub, htext⟩

/-- At the end of a path there is no path to name. -/
theorem segments_ne_nil_of_path? (hcheck : Rejecting check)
    (hresolve : path.resolve policy check value = .error inner) (hpath : inner.path? = some text) :
    path.segments ≠ [] := by
  intro hnil
  rw [Path.resolve_eq_verdictFrom, hnil, verdictFrom_nil] at hresolve
  obtain ⟨rejection, rfl⟩ := hcheck _ _ hresolve
  cases hpath

/-- **What is left of a path need not be read again.** After any steps that leave a segment, the
path that is left is what its text would be read as, with the same flag; two steps are one step; and
the text comes after a dot of the text of the path. So every path that is named in a mismatch, at any
depth, is read as the path that was being resolved. It is the whole path, or what comes after the
dot of one of its wildcards. -/
theorem left_paths_reread {optional : Bool} {raw : String}
    (hparse : Path.parse optional raw = .ok path) :
    (∀ indices left, indices.foldl Path.subPath path = left → left.segments ≠ [] →
      Path.parse optional left.text = .ok left ∧
        (indices ≠ [] → ∃ before, raw = before ++ "." ++ left.text)) ∧
    (∀ (other : Path) (i j : Nat), (other.subPath i).subPath j = other.subPath (i + j + 1)) ∧
    (∀ policy check value mismatch, Rejecting check →
      path.resolve policy check value = .error mismatch →
      ∀ inner text, inner.Within mismatch → inner.path? = some text →
        ∃ sub here, path.Starts value sub here ∧ sub.resolve policy check here = .error inner ∧
          Path.parse optional text = .ok sub ∧
          ((sub = path ∧ text = raw) ∨
            ∃ index quantifier, path.segments[index]? = some (.wildcard quantifier) ∧
              sub = path.subPath index ∧
              raw = Segment.join (path.segments.take index ++ [.wildcard quantifier]) ++ "." ++
                text)) := by
  have hraw : path.text = raw := (Path.parse_eq_ok_iff_text.mp hparse).1
  refine ⟨?_, Path.subPath_subPath, ?_⟩
  · rintro indices _ rfl hleft
    by_cases hindices : indices = []
    · subst hindices
      exact ⟨hraw ▸ hparse, absurd rfl⟩
    · obtain ⟨index, hindex⟩ := Path.exists_foldl_subPath_eq hindices path
      rw [hindex] at hleft ⊢
      exact ⟨Path.parse_text_subPath hparse hleft,
        fun _ => ⟨_, hraw ▸ Path.text_eq_append_text_subPath hleft⟩⟩
  · intro policy check value mismatch hcheck hresolve inner text hwithin hpath
    have haccounts : Accounts policy check path value mismatch :=
      accounts_of_verdictFrom_eq_error .start rfl hresolve
    obtain ⟨sub, here, hstarts, hsub, rfl⟩ :=
      haccounts.exists_starts hcheck hresolve hwithin hpath
    refine ⟨sub, here, hstarts, hsub, ?_⟩
    rcases hstarts.eq_or_subPath with rfl | ⟨index, quantifier, hwildcard, rfl⟩
    · exact ⟨hraw ▸ hparse, .inl ⟨rfl, hraw⟩⟩
    · have hleft : (path.subPath index).segments ≠ [] :=
        segments_ne_nil_of_path? hcheck hsub hpath
      have htake : path.segments.take (index + 1) =
          path.segments.take index ++ [.wildcard quantifier] := by
        rw [List.take_add_one, hwildcard, Option.toList_some]
      refine ⟨Path.parse_text_subPath hparse hleft, .inr ⟨index, quantifier, hwildcard, rfl, ?_⟩⟩
      rw [← hraw, ← htake]
      exact Path.text_eq_append_text_subPath hleft

/-- Every group is to have a zero, and the empty key at the end leads nowhere in the second one.
The mismatch inside names the path after the first wildcard, which ends in a dot. -/
theorem left_paths_reread_of_groups :
    let path : Path := ⟨[.literal "a", .wildcard .all, .wildcard .one, .literal ""], true⟩
    let left : Path := ⟨[.wildcard .one, .literal ""], true⟩
    let isZero := Predicate.check .value (.int 0)
    let group : Json := .arr [.int 1, .obj [("", .int 2)]]
    let value : Json := .obj [("a", .arr [.arr [.obj [("", .int 0)]], group])]
    let inner : Mismatch := .noneMatched "?." 2 2 group
    let mismatch : Mismatch := .allFailed "a.*.?." 2 1 inner
    Path.parse true "a.*.?." = .ok path ∧ [0, 0].foldl Path.subPath path = left ∧
      left.segments ≠ [] ∧ Path.parse true left.text = .ok left ∧
      (path.subPath 0).subPath 0 = path.subPath 1 ∧ Rejecting isZero ∧
      path.resolve .mostRecent isZero value = .error mismatch ∧ inner.Within mismatch ∧
      inner.path? = some "?." ∧
      ∃ sub here, path.Starts value sub here ∧ sub.resolve .mostRecent isZero here = .error inner ∧
        Path.parse true "?." = .ok sub := by
  intro path left isZero group value inner mismatch
  have hparse : Path.parse true "a.*.?." = .ok path := rfl
  have hleft : left.segments ≠ [] := List.cons_ne_nil _ _
  have hcheck : Rejecting isZero := Predicate.rejecting_check .value (.int 0)
  have hresolve : path.resolve .mostRecent isZero value = .error mismatch := rfl
  have hwithin : inner.Within mismatch := .last .self
  obtain ⟨hchains, hsteps, hmismatches⟩ := left_paths_reread hparse
  obtain ⟨hreread, -⟩ := hchains [0, 0] left rfl hleft
  obtain ⟨sub, here, hstarts, hsub, hinner, -⟩ :=
    hmismatches .mostRecent isZero value mismatch hcheck hresolve inner "?." hwithin rfl
  exact ⟨hparse, rfl, hleft, hreread, hsteps path 0 0, hcheck, hresolve, hwithin, rfl, sub, here,
    hstarts, hsub, hinner⟩

end ResponseCheck
