import ResponseCheck.Yaml.Cursor

/-!
# YAML scalars

A scalar is plain, quoted, or a block. Over several lines the breaks fold: one break becomes a
blank, and of more breaks in a row all but the first stay.
-/

namespace ResponseCheck.Yaml.Scalar

/-! ### Gaps -/

/-- Blanks and breaks between two runs of text. -/
structure Gap where
  /-- The blanks, as long as there is no break. -/
  blanks : List Char := []
  /-- The first break. -/
  first : List Char := []
  /-- The breaks after the first one. -/
  more : List Char := []
  /-- Whether the gap has a break. -/
  broken : Bool := false
deriving DecidableEq, Repr

/-- Breaks after folding: a single line feed becomes a blank, and the first one of several goes. -/
def fold (first more : List Char) : List Char :=
  if first = ['\n'] then (if more.isEmpty then [' '] else more) else first ++ more

/-- The text that a gap stands for. -/
def Gap.text (g : Gap) : List Char := if g.broken then fold g.first g.more else g.blanks

/-- A gap with one more blank, which counts only before the first break. -/
def Gap.addBlank (g : Gap) (x : Char) : Gap :=
  if g.broken then g else { g with blanks := g.blanks ++ [x] }

/-- A gap with one more break. -/
def Gap.addBreak (g : Gap) (text : List Char) : Gap :=
  if g.broken then { g with more := g.more ++ text }
  else { g with blanks := [], first := text, broken := true }

/-- Reads a gap. In a line before the column `limit` there must be no tab. The fuel bounds the
length of the gap. -/
def gap (limit : Nat) (start : Mark) : (fuel : Nat) → Gap → Cursor →
    Except SyntaxError (Gap × Cursor)
  | 0, g, c => .ok (g, c)
  | fuel + 1, g, c =>
    match c.ahead? 0 with
    | none => .ok (g, c)
    | some x =>
      if isBlank x then
        if g.broken && c.mark.column < limit && x == '\t' then
          c.fail .tabViolation .plainScalar start
        else gap limit start fuel (g.addBlank x) (c.skip 1)
      else if isBreak x then
        let (text, c) := c.lineBreak
        gap limit start fuel (g.addBreak text) c
      else .ok (g, c)

/-! ### Plain scalars -/

/-- The indicators of flow collections. -/
def isFlowIndicator (x : Char) : Bool :=
  x == ',' || x == '[' || x == ']' || x == '\x7b' || x == '\x7d'

/-- The run of a plain scalar up to a blank or an indicator that ends it, and whether a colon stands
where it must not. -/
def plainRun (flow : Bool) : List Char → List Char × Bool
  | [] => ([], false)
  | x :: rest =>
    if isBlank x || isBreak x then ([], false)
    else if flow && x == ':' && rest.head?.any (fun y => isFlowIndicator y || y == '?') then
      ([], true)
    else if x == ':' && rest.head?.all (fun y => isBlank y || isBreak y) then ([], false)
    else if flow && isFlowIndicator x then ([], false)
    else
      let (run, fault) := plainRun flow rest
      (x :: run, fault)

/-- A scalar that was read. -/
structure Result where
  text : List Char
  /-- Where the text ends. -/
  stop : Mark
  /-- Whether the reader went on to another line. -/
  broken : Bool
  /-- Where the reader goes on. -/
  cursor : Cursor
deriving Repr

/-- Reads the rest of a plain scalar after a gap. Outside flow collections its lines are indented
by `limit` at least. The fuel bounds the number of runs. -/
def plainFrom (flow : Bool) (limit : Nat) (start : Mark) : (fuel : Nat) → (text : List Char) →
    (stop : Mark) → Gap → Cursor → Except SyntaxError Result
  | 0, text, stop, g, c => .ok ⟨text, stop, g.broken, c⟩
  | fuel + 1, text, stop, g, c => do
    let finish : Result := ⟨text, stop, g.broken, c⟩
    if c.atDocumentIndicator || c.startsWith '#' then return finish
    let (run, fault) := plainRun flow c.rest
    if fault then (c.skip run.length).fail .unexpectedColon .plainScalar start
    else if run.isEmpty then return finish
    else
      let text := text ++ g.text ++ run
      let c := c.skip run.length
      let stop := c.mark
      let (g, c) ← gap limit start c.rest.length {} c
      if !flow && c.mark.column < limit then return ⟨text, stop, g.broken, c⟩
      else plainFrom flow limit start fuel text stop g c

/-- Reads a plain scalar. -/
def plain (flow : Bool) (limit : Nat) (c : Cursor) : Except SyntaxError Result :=
  plainFrom flow limit c.mark (c.rest.length + 1) [] c.mark {} c

/-! ### Quoted scalars -/

/-- The characters that single letters stand for after a backslash. -/
def escapes : List (Char × Char) :=
  [('0', '\x00'), ('a', '\x07'), ('b', '\x08'), ('t', '\t'), ('\t', '\t'), ('n', '\n'),
    ('v', '\x0b'), ('f', '\x0c'), ('r', '\r'), ('e', '\x1b'), (' ', ' '), ('"', '"'),
    ('/', '/'), ('\\', '\\'), ('N', '\u0085'), ('_', '\u00a0'), ('L', '\u2028'), ('P', '\u2029')]

/-- How many hexadecimal digits follow a letter after a backslash. -/
def codeLength? : Char → Option Nat
  | 'x' => some 2
  | 'u' => some 4
  | 'U' => some 8
  | _ => none

/-- The value of a hexadecimal digit. -/
def hexValue? (c : Char) : Option Nat :=
  if c.isDigit then some (c.toNat - '0'.toNat)
  else if 'a' ≤ c && c ≤ 'f' then some (c.toNat - 'a'.toNat + 10)
  else if 'A' ≤ c && c ≤ 'F' then some (c.toNat - 'A'.toNat + 10)
  else none

/-- The number that hexadecimal digits stand for. -/
def hexNumber? (digits : List Char) : Option Nat :=
  digits.foldlM (fun n c => do return n * 16 + (← hexValue? c)) 0

/-- The character with a code, if there is one. -/
def charOfCode? (n : Nat) : Option Char := if n.isValidChar then some (Char.ofNat n) else none

/-- Reads an escape at a backslash. -/
def escape (start : Mark) (c : Cursor) : Except SyntaxError (Char × Cursor) :=
  match c.ahead? 1 with
  | none => c.fail .unknownEscape .quotedEscape start
  | some letter =>
    match escapes.lookup letter, codeLength? letter with
    | some x, _ => .ok (x, c.skip 2)
    | none, none => c.fail .unknownEscape .quotedEscape start
    | none, some length =>
      let c := c.skip 2
      let digits := c.rest.take length
      match hexNumber? digits with
      | none => c.fail .hexDigit .quotedEscape start
      | some code =>
        if digits.length < length then c.fail .hexDigit .quotedEscape start
        else match charOfCode? code with
          | none => c.fail .escapeCode .quotedEscape start
          | some x => .ok (x, c.skip length)

/-- The quote of a quoted scalar. -/
def quoteMark (single : Bool) : Char := if single then '\'' else '"'

/-- Reads a run of a quoted scalar up to a blank or its quote. Also says whether the run ends with
an escaped line break. The fuel bounds the length of the run. -/
def quotedRun (single : Bool) (start : Mark) : (fuel : Nat) → Cursor →
    Except SyntaxError (List Char × Bool × Cursor)
  | 0, c => .ok ([], false, c)
  | fuel + 1, c => do
    let goOn (x : Char) (c : Cursor) : Except SyntaxError (List Char × Bool × Cursor) := do
      let (run, escaped, c) ← quotedRun single start fuel c
      return (x :: run, escaped, c)
    match c.ahead? 0 with
    | none => return ([], false, c)
    | some x =>
      if isBlank x || isBreak x then return ([], false, c)
      else if single && x == '\'' && c.aheadIs 1 (· == '\'') then goOn '\'' (c.skip 2)
      else if x == quoteMark single then return ([], false, c)
      else if !single && x == '\\' then
        if c.aheadIs 1 isBreak then return ([], true, (c.skip 1).lineBreak.2)
        else
          let (y, c) ← escape start c
          goOn y c
      else goOn x (c.skip 1)

/-- Reads the rest of a quoted scalar and its quote. The fuel bounds the number of runs. -/
def quotedFrom (single : Bool) (start : Mark) : (fuel : Nat) → (text : List Char) → Cursor →
    Except SyntaxError (List Char × Cursor)
  | 0, _, c => c.fail .endOfStream .quotedScalar start
  | fuel + 1, text, c => do
    if c.atDocumentIndicator then c.fail .documentIndicator .quotedScalar start
    else if c.endsAt 0 then c.fail .endOfStream .quotedScalar start
    else
      let (run, escaped, c) ← quotedRun single start c.rest.length c
      let text := text ++ run
      if c.startsWith (quoteMark single) then return (text, c.skip 1)
      let (g, c) ← gap 0 start c.rest.length { broken := escaped } c
      quotedFrom single start fuel (text ++ g.text) c

/-- Reads a quoted scalar at its opening quote. -/
def quoted (single : Bool) (c : Cursor) : Except SyntaxError (List Char × Cursor) :=
  quotedFrom single c.mark (c.rest.length + 1) [] (c.skip 1)

/-! ### Blocks -/

/-- What becomes of the breaks at the end of a block. -/
inductive Chomping where
  | strip | clip | keep
deriving DecidableEq, Repr

/-- Reads a chomping indicator. -/
def chomping? (c : Cursor) : Option (Chomping × Cursor) :=
  if c.startsWith '+' then some (.keep, c.skip 1)
  else if c.startsWith '-' then some (.strip, c.skip 1)
  else none

/-- Reads an indentation indicator. -/
def increment? (start : Mark) (c : Cursor) : Except SyntaxError (Option (Nat × Cursor)) :=
  match c.ahead? 0 with
  | some x =>
    if !x.isDigit then .ok none
    else if x == '0' then c.fail .zeroIndentation .blockScalar start
    else .ok (some (x.toNat - '0'.toNat, c.skip 1))
  | none => .ok none

/-- Reads the indicators of a block, which come in either order. -/
def blockHeader (start : Mark) (c : Cursor) :
    Except SyntaxError (Chomping × Option Nat × Cursor) := do
  match chomping? c with
  | some (chomping, c) =>
    match ← increment? start c with
    | some (n, c) => return (chomping, some n, c)
    | none => return (chomping, none, c)
  | none =>
    match ← increment? start c with
    | none => return (.clip, none, c)
    | some (n, c) =>
      match chomping? c with
      | some (chomping, c) => return (chomping, some n, c)
      | none => return (.clip, some n, c)

/-- Reads indentation and breaks before a line of a block; the indentation may still be unknown.
Gives the breaks, the greatest column, and the place after the last break. The fuel bounds the
number of breaks. -/
def blockBreaks (indent : Option Nat) (start : Mark) : (fuel : Nat) → (breaks : List Char) →
    (widest : Nat) → (stop : Mark) → Cursor →
    Except SyntaxError (List Char × Nat × Mark × Cursor)
  | 0, breaks, widest, stop, c => .ok (breaks, widest, stop, c)
  | fuel + 1, breaks, widest, stop, c => do
    let inside (column : Nat) : Bool := indent.all (column < ·)
    let spaces := (c.rest.takeWhile (· == ' ')).length
    let c := c.skip (match indent with
      | none => spaces
      | some n => min spaces (n - c.mark.column))
    let widest := max widest c.mark.column
    if inside c.mark.column && c.startsWith '\t' then c.fail .tabIndentation .blockScalar start
    else if c.aheadIs 0 isBreak then
      let (text, c) := c.lineBreak
      blockBreaks indent start fuel (breaks ++ text) widest c.mark c
    else return (breaks, widest, stop, c)

/-- The parts of a block that were read so far. -/
structure Block where
  text : List Char := []
  /-- The break after the last line. -/
  first : List Char := []
  /-- The breaks after that one. -/
  more : List Char := []
  /-- Whether the last line starts with a blank. -/
  indented : Bool := false
  stop : Mark

/-- The break and the breaks after it before a line of a block; in a folded block a break between
two lines that do not start with a blank folds. -/
def Block.breaksBefore (b : Block) (literal blank : Bool) : List Char :=
  if !literal && b.first == ['\n'] && !b.indented && !blank then
    if b.more.isEmpty then [' '] else b.more
  else b.first ++ b.more

/-- Reads the lines of a block with a known indentation. The fuel bounds their number. -/
def blockLines (literal : Bool) (indent : Nat) (start : Mark) : (fuel : Nat) → Block → Cursor →
    Except SyntaxError (Block × Cursor)
  | 0, b, c => .ok (b, c)
  | fuel + 1, b, c => do
    if c.mark.column != indent || c.endsAt 0 then return (b, c)
    let blank := c.aheadIs 0 isBlank
    let (line, c) := c.takeWhile (!isBreak ·)
    let text := b.text ++ b.breaksBefore literal blank ++ line
    let (first, c) := c.lineBreak
    let (more, _, stop, c) ← blockBreaks (some indent) start (c.rest.length + 1) [] 0 c.mark c
    blockLines literal indent start fuel ⟨text, first, more, blank, stop⟩ c

/-- The text of a block after its last breaks are treated. -/
def Block.chomped (b : Block) : Chomping → List Char
  | .strip => b.text
  | .clip => b.text ++ b.first
  | .keep => b.text ++ b.first ++ b.more

/-- Reads a block at its indicator, inside a collection indented by `parent`. -/
def block (literal : Bool) (parent : Int) (c : Cursor) :
    Except SyntaxError (List Char × Mark × Cursor) := do
  let start := c.mark
  let (chomping, increment, c) ← blockHeader start (c.skip 1)
  let c := (c.skipWhile isBlank).skipComment
  if !c.atLineEnd then c.fail .blockHeaderEnd .blockScalar start
  else
    let c := c.lineBreak.2
    let known := increment.map fun n => (max parent 0).toNat + n
    let (more, widest, stop, c) ← blockBreaks known start (c.rest.length + 1) [] 0 c.mark c
    let indent := known.getD (max widest (max (parent + 1).toNat 1))
    let (b, c) ←
      blockLines literal indent start (c.rest.length + 1) { more, stop } c
    return (b.chomped chomping, b.stop, c)

end ResponseCheck.Yaml.Scalar
