import ResponseCheck.Navigation
import ResponseCheck.Path

/-!
# Resolving paths

A path is resolved from the root of a value: a key steps into it, a wildcard ranges over the
elements of a container, and at the end of the path a check is applied. Every element of a wildcard
is visited, whatever the others gave. A null before the end of an optional path satisfies it.
-/

namespace ResponseCheck

/-- The outcome of a check. -/
abbrev Verdict := Except Mismatch Unit

/-- How a wildcard for all elements reports the failing ones. -/
inductive Policy where
  /-- Only the last failure is kept. -/
  | mostRecent
  /-- Every failure is kept. -/
  | collectAll
deriving DecidableEq, Repr

/-- What is counted while a wildcard visits its elements. -/
structure Tally where
  total : Nat := 0
  failed : Nat := 0
  /-- The last failure, unless every failure is kept. -/
  last? : Option Mismatch := none
  /-- The failures in order, if every failure is kept. -/
  failures : List Mismatch := []
deriving Repr

/-- Counts the verdict on one more element. -/
def Tally.add (policy : Policy) (quantifier : Quantifier) (tally : Tally) : Verdict → Tally
  | .ok _ => { tally with total := tally.total + 1 }
  | .error mismatch =>
    let counted := { tally with total := tally.total + 1, failed := tally.failed + 1 }
    match quantifier, policy with
    | .all, .collectAll => { counted with failures := tally.failures ++ [mismatch] }
    | _, _ => { counted with last? := some mismatch }

/-- The verdict of a wildcard on a container, from the verdicts on its elements in order. -/
def aggregate (policy : Policy) (quantifier : Quantifier) (path : String) (container : Json)
    (verdicts : List Verdict) : Verdict :=
  let tally := verdicts.foldl (Tally.add policy quantifier) {}
  match quantifier with
  | .all =>
    if tally.failed = 0 then .ok ()
    else match policy, tally.last? with
      | .mostRecent, some last => .error (.allFailed path tally.total tally.failed last)
      | _, _ => .error (.allFailures path tally.total tally.failures)
  | .one =>
    -- An empty container has no failures, but no match either.
    if tally.failed = tally.total then
      .error (.noneMatched path tally.total tally.failed container)
    else .ok ()

/-- Resolves the segments that are left of the path `whole`. -/
def resolveFrom {m : Type → Type} [Monad m] (policy : Policy) (optional : Bool)
    (check : Json → m Verdict) (whole : List Segment) : List Segment → Json → m Verdict
  | [], value => check value
  | segment :: rest, value =>
    if optional && value.isNull then pure (.ok ())
    else match segment with
      | .literal key =>
        match value.step key with
        | .error mismatch => pure (.error mismatch)
        | .ok next => resolveFrom policy optional check whole rest next
      | .wildcard quantifier =>
        match value.elements? with
        | none => pure (.error (.notContainer (Segment.join whole) value))
        | some elements => do
          -- Every element is visited before any verdict counts.
          let verdicts ←
            if rest.isEmpty then elements.mapM check
            else elements.mapM fun element => resolveFrom policy optional check rest rest element
          return aggregate policy quantifier (Segment.join whole) value verdicts

/-- Resolves a path with a check in any monad. -/
def Path.resolveM {m : Type → Type} [Monad m] (path : Path) (policy : Policy)
    (check : Json → m Verdict) (value : Json) : m Verdict :=
  resolveFrom policy path.optional check path.segments path.segments value

/-- Resolves a path with a pure check. -/
def Path.resolve (path : Path) (policy : Policy) (check : Json → Verdict) (value : Json) :
    Verdict :=
  Id.run (path.resolveM policy (fun v => pure (check v)) value)

/-- A check that also records the values it is given. -/
def recording (check : Json → Verdict) (value : Json) : StateM (List Json) Verdict := do
  modify (· ++ [value])
  return check value

/-- Resolves a path, and lists the values that the check was given in order. -/
def Path.resolveRecording (path : Path) (policy : Policy) (check : Json → Verdict) (value : Json) :
    Verdict × List Json :=
  (path.resolveM policy (recording check) value).run []

end ResponseCheck
