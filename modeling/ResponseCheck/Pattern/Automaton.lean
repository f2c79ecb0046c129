import ResponseCheck.Pattern.Normal

/-!
# The space that a pattern takes

An expression is laid out as an automaton over the bytes of UTF-8, once for reading a text forwards
and once for reading it backwards. Counted repetitions are written out, and a set of characters
becomes a tree of byte ranges that shares equal parts. A state takes a fixed number of bytes and
more for its edges; a pattern for which one of the two automata is larger than the limit is refused.

States are numbered as they are added. The tables through which parts are shared have a fixed number
of slots and forget a part when another one comes to its slot, so that the number of states depends
on the numbers too.
-/

namespace ResponseCheck.Pattern

open Unicode (CharSet)

/-- How many bytes an automaton may take. -/
def sizeLimit : Nat := 10485760

/-- What is laid out of an automaton: the number of its states, and the bytes of their edges. -/
structure Layout where
  states : Nat := 0
  edges : Nat := 0
deriving DecidableEq, Repr

/-- The bytes that an automaton takes. -/
def Layout.bytes (layout : Layout) : Nat := 32 * layout.states + layout.edges

/-- Steps that lay out an automaton; they fail as soon as it is too large. -/
abbrev Lay := StateT Layout Option

/-- Adds a state whose edges take some bytes; the result is its number. -/
def addState (edges : Nat := 0) : Lay Nat := fun layout =>
  let next := ⟨layout.states + 1, layout.edges + edges⟩
  if next.bytes ≤ sizeLimit then some (layout.states, next) else none

/-- The bytes of a state that leads to `n` others without reading anything. -/
def branching (n : Nat) : Nat := 4 * n

/-- The bytes of a state with edges for `n` ranges of bytes. -/
def reading (n : Nat) : Nat := 8 * n

/-- Does a step some number of times. -/
def times : Nat → Lay Unit → Lay Unit
  | 0, _ => pure ()
  | n + 1, step => do
    step
    times n step

/-- The UTF-8 forms of the code points from `low` to `high`, which have one lead byte followed by
`level` more bytes, as sequences of byte ranges. The first byte is `mark` and the leading bits. -/
def byteSequences : (level mark low high : Nat) → List (List (Nat × Nat))
  | 0, mark, low, high => [[(mark + low, mark + high)]]
  | level + 1, mark, low, high =>
    let block := 64 ^ (level + 1)
    let (first, last) := (low / block, high / block)
    let within (lead low high : Nat) :=
      (byteSequences level 0x80 low high).map ((mark + lead, mark + lead) :: ·)
    if first = last then within first (low % block) (high % block)
    else
      -- The blocks that are whole make one sequence, between those of the first and last block.
      let start := if low % block = 0 then first else first + 1
      let stop := if high % block = block - 1 then last + 1 else last
      (if start = first then [] else within first (low % block) (block - 1)) ++
        (if start < stop then
          [(mark + start, mark + stop - 1) :: List.replicate (level + 1) (0x80, 0xBF)] else []) ++
        (if stop = last then within last 0 (high % block) else [])

/-- The UTF-8 forms of the code points from `low` to `high`, in order. -/
def utf8Sequences (low high : Nat) : List (List (Nat × Nat)) :=
  let lengths := [(0, 0, 0, 0x7F), (1, 0xC0, 0x80, 0x7FF), (2, 0xE0, 0x800, 0xFFFF),
    (3, 0xF0, 0x10000, 0x10FFFF)]
  lengths.flatMap fun (level, mark, least, greatest) =>
    if max low least ≤ min high greatest then
      byteSequences level mark (max low least) (min high greatest)
    else []

/-- The slots of a table, each with the last part that came to it and the number of its state. -/
abbrev Slots := Array (Option (List Nat × Nat))

/-- The slot of a part among `n`. -/
def slotOf (n : Nat) (part : List Nat) : Nat :=
  -- A hash of 64 bits, in which products wrap around.
  let mix (h : UInt64) (x : Nat) : UInt64 := (h ^^^ x.toUInt64) * 1099511628211
  (part.foldl mix 14695981039346656037).toNat % n

/-- The number of the state for a part: that of an equal part that the table still holds, or of a
new state. -/
def shared (part : List Nat) (edges : Nat) : StateT Slots Lay Nat := do
  let slots ← get
  let slot := slotOf slots.size part
  if let some (some (found, state)) := slots[slot]? then
    if found = part then return state
  let state ← addState edges
  set (slots.setIfInBounds slot (some (part, state)))
  return state

/-- Lays out sequences as a tree whose leaves are the state `target`. Sequences that start alike
stand side by side. -/
def layTree (target : Nat) : (depth : Nat) → List (List (Nat × Nat)) → StateT Slots Lay Nat
  | 0, _ => return target
  | depth + 1, sequences => do
    if sequences.all (·.isEmpty) then return target
    let groups := sequences.splitBy fun a b => a.head? == b.head?
    let edges ← groups.mapM fun group => do
      let state ← layTree target depth (group.map List.tail)
      let (low, high) := (group.head?.bind List.head?).getD (0, 0)
      return [low, high, state]
    shared edges.flatten (reading groups.length)

/-- Lays out sequences byte by byte from the last one on, for reading backwards. -/
def layReversed (target : Nat) (sequences : List (List (Nat × Nat))) : StateT Slots Lay Unit :=
  for sequence in sequences do
    let _ ← sequence.foldlM (fun state (low, high) => shared [state, low, high] 0) target

/-- Lays out a set of characters. -/
def laySet (backwards : Bool) (s : CharSet) : Lay Unit := do
  if s.isAscii then
    let _ ← addState
    let _ ← addState (reading s.ranges.length)
  else
    let sequences := s.ranges.flatMap fun (low, high) => utf8Sequences low high
    if backwards then
      let _ ← addState (branching sequences.length)
      let _ ← (layReversed (← addState) sequences).run (Array.replicate 1000 none)
    else
      let _ ← (layTree (← addState) 4 sequences).run (Array.replicate 10000 none)

/-- The texts before, between and after those that are empty. Empty texts count once until there is
another one. -/
def chunks (texts : List (List UInt8)) : List (List (List UInt8)) :=
  let others := texts.dropWhile (·.isEmpty)
  let found := others.splitOnP (·.isEmpty)
  if others.length < texts.length then [] :: found else found

/-- Lays out alternative texts, each of at most `depth` bytes, as a tree with shared beginnings. -/
def layTexts : (depth : Nat) → List (List UInt8) → Lay Unit
  | 0, _ => return ()
  | depth + 1, texts => do
    -- A text that ends here has priority over the later ones, which do not share its branches.
    let chunks := chunks texts
    for chunk in chunks do
      let leads := (chunk.filterMap List.head?).eraseDups.mergeSort (· ≤ ·)
      for lead in leads do
        let rests := (chunk.filter (·.head? == some lead)).map List.tail
        unless rests.all (·.isEmpty) do layTexts depth rests
      if leads.length = 1 then
        let _ ← addState
      else if 1 < leads.length then
        let _ ← addState (reading leads.length)
    let filled := chunks.filter (!·.isEmpty)
    let _ ← addState (branching (filled.length + (chunks.length - 1)))

namespace Expr

/-- The bytes of an expression that is a literal. -/
def text? : Expr → Option (List UInt8)
  | .literal chars => some (chars.flatMap String.utf8EncodeChar)
  | _ => none

mutual

/-- Lays out an expression. -/
def lay (backwards : Bool) : Expr → Lay Unit
  | .empty | .condition _ => do
    let _ ← addState
  | .literal chars => times (chars.flatMap String.utf8EncodeChar).length do
    let _ ← addState
  | .set s => laySet backwards s
  | .capture _ body => do
    -- Captures are only told apart when a text is read forwards.
    unless backwards do
      let _ ← addState
    lay backwards body
    unless backwards do
      let _ ← addState
  | .concat parts => if backwards then layBackwards parts else layForwards parts
  | .alternation branches =>
    match branches.mapM text? with
    | some texts => do
      let _ ← addState
      let texts := if backwards then texts.map List.reverse else texts
      layTexts ((texts.map List.length).max?.getD 0 + 1) texts
    | none => layBranches backwards 0 branches
  | .repetition body least most _ => do
    let branch : Lay Unit := do
      let _ ← addState (branching 2)
    match least, most with
    | 0, some 1 =>
      branch
      lay backwards body
      let _ ← addState
    | 0, none =>
      if body.minLength.any (0 < ·) then
        branch
        lay backwards body
      else
        -- A round may read nothing, so it is laid out as an optional one that may be done again.
        lay backwards body
        branch
        branch
        let _ ← addState
    | least, none =>
      times least (lay backwards body)
      branch
    | least, some most =>
      if least = 0 then
        let _ ← addState
      times least (lay backwards body)
      -- The rounds that may be left out all lead to one state at the end.
      if least < most then
        let _ ← addState
        times (most - least) do
          branch
          lay backwards body

/-- Lays out expressions from the first one on. -/
def layForwards : List Expr → Lay Unit
  | [] => pure ()
  | part :: parts => do
    part.lay false
    layForwards parts

/-- Lays out expressions from the last one on. -/
def layBackwards : List Expr → Lay Unit
  | [] => pure ()
  | part :: parts => do
    layBackwards parts
    part.lay true

/-- Lays out alternatives, `before` of which are laid out already. The states that join them come
after the second one. -/
def layBranches (backwards : Bool) (before : Nat) : List Expr → Lay Unit
  | [] => pure ()
  | branch :: branches => do
    branch.lay backwards
    if before = 1 then
      let _ ← addState (branching (branches.length + 2))
      let _ ← addState
    layBranches backwards (before + 1) branches

end

mutual

/-- Whether every match starts at the start of the text. -/
def startsText : Expr → Bool
  | .condition .startOfText => true
  | .capture _ body => body.startsText
  | .concat parts => someStartsText parts
  | .alternation branches => allStartText branches
  | .repetition body least _ _ => 0 < least && body.startsText
  | _ => false

/-- Whether this is so for a part before which nothing is read. -/
def someStartsText : List Expr → Bool
  | [] => false
  | part :: parts => part.startsText || part.isBlank && someStartsText parts

/-- Whether this is so for all alternatives. -/
def allStartText : List Expr → Bool
  | [] => true
  | branch :: branches => branch.startsText && allStartText branches

end

mutual

/-- Whether every match ends at the end of the text. -/
def endsText : Expr → Bool
  | .condition .endOfText => true
  | .capture _ body => body.endsText
  | .concat parts => someEndsText parts
  | .alternation branches => allEndText branches
  | .repetition body least _ _ => 0 < least && body.endsText
  | _ => false

/-- Whether this is so for a part after which nothing is read. -/
def someEndsText : List Expr → Bool
  | [] => false
  | part :: parts => allBlank parts && part.endsText || someEndsText parts

/-- Whether this is so for all alternatives. -/
def allEndText : List Expr → Bool
  | [] => true
  | branch :: branches => branch.endsText && allEndText branches

end

/-- Lays out the automaton of a pattern. Unless the pattern holds to the end of the text where
reading starts, the automaton first skips bytes. -/
def layAutomaton (backwards : Bool) (e : Expr) : Lay Unit := do
  if if backwards then e.endsText else e.startsText then
    let _ ← addState
  else
    let _ ← addState (branching 2)
    let _ ← addState
    let _ ← addState (reading 1)
  -- The match as a whole is captured as well.
  lay backwards (.capture 0 e)
  let _ ← addState

/-- Whether an expression is one of so many literals that no automaton is built for it. -/
def isLongList : Expr → Bool
  | .alternation branches => 3000 ≤ branches.length && (branches.mapM text?).isSome
  | _ => false

/-- Whether an expression can be used within the limit. -/
def fits (e : Expr) : Bool :=
  e.isLongList || [false, true].all fun backwards => ((layAutomaton backwards e).run {}).isSome

end Expr

end ResponseCheck.Pattern
