/-!
# Sets of characters

A set of characters is kept as the code points where membership changes, in order: members begin at
the first of them, end before the second, begin again at the third. The surrogates are no characters
and belong to no set, so that equal sets have equal points.
-/

namespace ResponseCheck.Unicode

/-- The number of code points. -/
def codePoints : Nat := 0x110000

/-- The value of a digit in base 36. -/
def digit36 (c : Char) : Nat := if c.isDigit then c.toNat - 48 else c.toNat - 87

/-- A number in base 36. -/
def fromBase36 (s : String) : Nat := s.toList.foldl (fun n c => n * 36 + digit36 c) 0

/-- The last index below `high` where `p` holds, for a `p` that holds up to some index and not
after it. The interval is halved in each step. -/
def searchBetween (p : Nat → Bool) : (fuel low high : Nat) → Nat
  | 0, low, _ => low
  | fuel + 1, low, high =>
    if high ≤ low + 1 then low
    else
      let middle := (low + high) / 2
      if p middle then searchBetween p fuel middle high else searchBetween p fuel low middle

/-- The last index below `size` where a downward closed `p` holds. -/
def searchLast (p : Nat → Bool) (size : Nat) : Option Nat :=
  if size = 0 ∨ !p 0 then none else some (searchBetween p (size.log2 + 2) 0 size)

/-- A set of characters, by the code points where membership changes. -/
structure CharSet where
  points : Array Nat
deriving DecidableEq, Repr

namespace CharSet

/-- Membership. -/
def contains (s : CharSet) (c : Char) : Bool :=
  match searchLast (fun i => s.points[i]?.any (· ≤ c.toNat)) s.points.size with
  | some i => i % 2 == 0
  | none => false

/-- The set without members. -/
def empty : CharSet := ⟨#[]⟩

/-- The characters from one to another. -/
def range (low high : Char) : CharSet :=
  if low.toNat < 0xD800 ∧ 0xDFFF < high.toNat then
    ⟨#[low.toNat, 0xD800, 0xE000, high.toNat + 1]⟩
  else ⟨#[low.toNat, high.toNat + 1]⟩

/-- The set of one character. -/
def single (c : Char) : CharSet := range c c

/-- The set of all characters. -/
def all : CharSet := range '\x00' (Char.ofNat (codePoints - 1))

/-- The ASCII characters. -/
def ascii : CharSet := range '\x00' '\x7f'

/-- The set that a Boolean operation makes of two sets; what is in neither is not in it. -/
def combine (f : Bool → Bool → Bool) (a b : CharSet) : CharSet :=
  let marked (s : CharSet) (second : Bool) := s.points.toList.map (·, second)
  let step := fun (inA, inB, points) (p, second) =>
    let (inA', inB') := if second then (inA, !inB) else (!inA, inB)
    if f inA inB = f inA' inB' then (inA', inB', points)
    -- Both sets may change at one place; two changes of the result there cancel out.
    else if points.back? = some p then (inA', inB', points.pop)
    else (inA', inB', points.push p)
  ⟨((List.merge (marked a false) (marked b true) (·.1 ≤ ·.1)).foldl step (false, false, #[])).2.2⟩

/-- The members of one of two sets. -/
def union : CharSet → CharSet → CharSet := combine or

/-- The common members of two sets. -/
def inter : CharSet → CharSet → CharSet := combine and

/-- The members of the first set that are not in the second. -/
def diff : CharSet → CharSet → CharSet := combine fun inA inB => inA && !inB

/-- The characters that are not members. -/
def complement (s : CharSet) : CharSet := diff all s

/-- The union of sets. -/
def unions (sets : List CharSet) : CharSet := sets.foldl union empty

/-- The set of some code points, listed in order. -/
def ofSorted (codes : List Nat) : CharSet :=
  ⟨codes.foldl (fun points n =>
    if points.back? = some n then points.pop.push (n + 1)
    else if points.back? = some (n + 1) then points
    else points.push n |>.push (n + 1)) #[]⟩

/-- The set with the given lengths, in base 36, of runs outside and inside it in turn. -/
def ofRuns (text : List String) : CharSet :=
  let lengths := (text.flatMap (·.splitOn " ")).map fromBase36
  ⟨(lengths.foldl (fun (start, points) n => (start + n, points.push (start + n))) (0, #[])).2⟩

/-- The first and the last code point of each run of members. -/
def ranges (s : CharSet) : List (Nat × Nat) := pairs s.points.toList
where
  pairs : List Nat → List (Nat × Nat)
    | first :: next :: rest => (first, next - 1) :: pairs rest
    | _ => []

/-- The only member of a set. -/
def only? (s : CharSet) : Option Char :=
  match s.ranges with
  | [(first, last)] => if first = last then some (Char.ofNat first) else none
  | _ => none

/-- Whether all members are ASCII. -/
def isAscii (s : CharSet) : Bool := s.points.all (· ≤ 0x80)

end CharSet

end ResponseCheck.Unicode
