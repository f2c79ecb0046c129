import ResponseCheck.Pattern.Classes

/-!
# Matching

An expression matches a stretch of a text between two places. The matcher works on sets of places,
kept as bit masks: from the set of places where a match may start it computes the set of places
where one may end, so that no work is repeated.

Whether a repetition is greedy and what the number of a capture is has no effect on whether a text
matches; both keep expressions apart that are else equal.
-/

namespace ResponseCheck.Pattern

open Unicode (CharSet)

/-- Conditions on a place in a text. -/
inductive Condition where
  | startOfText
  | endOfText
  /-- The start of a line; with `carriageReturn`, CR and CRLF end a line as well. -/
  | startOfLine (carriageReturn : Bool)
  | endOfLine (carriageReturn : Bool)
  /-- A condition on whether word characters stand before and after the place. -/
  | word (kind : Look) (unicode : Bool)
deriving DecidableEq, Repr

/-- Expressions. -/
inductive Expr where
  | empty
  | literal (chars : List Char)
  | set (chars : CharSet)
  | condition (kind : Condition)
  | capture (index : Nat) (body : Expr)
  | concat (parts : List Expr)
  | alternation (branches : List Expr)
  | repetition (body : Expr) (least : Nat) (most : Option Nat) (greedy : Bool)

/-- What a condition on word characters says. -/
def Look.wordHolds (kind : Look) (before after : Bool) : Bool :=
  match kind with
  | .wordBoundary => before != after
  | .notWordBoundary => before == after
  | .wordStart => !before && after
  | .wordEnd => before && !after
  | .wordStartHalf => !before
  | .wordEndHalf => !after
  | _ => false

/-- Whether a condition holds at place `i` of a text. -/
def Condition.holds (text : Array Char) (i : Nat) (condition : Condition) : Bool :=
  let before := if i = 0 then none else text[i - 1]?
  let after := text[i]?
  match condition with
  | .startOfText => i == 0
  | .endOfText => i == text.size
  | .startOfLine false => i == 0 || before == some '\n'
  | .endOfLine false => i == text.size || after == some '\n'
  | .startOfLine true =>
    i == 0 || before == some '\n' || (before == some '\r' && after != some '\n')
  | .endOfLine true =>
    i == text.size || after == some '\r' || (after == some '\n' && before != some '\r')
  | .word kind unicode =>
    let isWord (c : Char) := (Shorthand.word.set unicode).contains c
    kind.wordHolds (before.any isWord) (after.any isWord)

/-- The places of a mask that satisfy `p`, each moved by `shift`. -/
def filterPlaces (p : Nat → Bool) (shift size mask : Nat) : Nat :=
  (List.range size).foldl
    (fun acc i => if mask.testBit i && p i then acc ||| (1 <<< (i + shift)) else acc) 0

/-- Applies `f` up to `count` times, until nothing changes. -/
def iterateUntilStable (f : Nat → Nat) : (count : Nat) → Nat → Nat
  | 0, mask => mask
  | count + 1, mask =>
    let next := f mask
    if next = mask then mask else iterateUntilStable f count next

namespace Expr

mutual

/-- The places where matches that start at the places of a mask end. -/
def ends (text : Array Char) : Expr → Nat → Nat
  | .empty, mask => mask
  | .literal chars, mask =>
    chars.foldl (fun mask c => filterPlaces (fun i => text[i]? == some c) 1 text.size mask) mask
  | .set chars, mask =>
    filterPlaces (fun i => text[i]?.any chars.contains) 1 text.size mask
  | .condition kind, mask => filterPlaces (kind.holds text ·) 0 (text.size + 1) mask
  | .capture _ body, mask => ends text body mask
  | .concat parts, mask => endsInOrder text parts mask
  | .alternation branches, mask => endsOfAny text branches mask
  | .repetition body least most _, mask =>
    -- After a round that changes nothing, no later one does.
    let start := iterateUntilStable (fun m => ends text body m) least mask
    let more := match most with
      | none => text.size + 1
      | some most => most - least
    iterateUntilStable (fun m => m ||| ends text body m) more start

/-- The places where matches of the expressions one after the other end. -/
def endsInOrder (text : Array Char) : List Expr → Nat → Nat
  | [], mask => mask
  | part :: parts, mask => endsInOrder text parts (ends text part mask)

/-- The places where a match of one of the expressions ends. -/
def endsOfAny (text : Array Char) : List Expr → Nat → Nat
  | [], _ => 0
  | branch :: branches, mask => ends text branch mask ||| endsOfAny text branches mask

end

/-- Whether an expression matches somewhere in a text. -/
def search (e : Expr) (text : String) : Bool :=
  let chars := text.toList.toArray
  -- A match may start at every place, the end of the text included.
  e.ends chars (Nat.pow 2 (chars.size + 1) - 1) != 0

end Expr

end ResponseCheck.Pattern
