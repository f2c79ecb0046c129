import ResponseCheck.Yaml.Token.Property
import ResponseCheck.Yaml.Token.Scalar

/-!
# From YAML text to tokens

A text that may turn out to be the key of a mapping is remembered until a colon follows or can no
longer follow on the same line; then the tokens of the mapping go in front of it.
-/

namespace ResponseCheck.Yaml

/-- A text that may turn out to be the key of a mapping. -/
structure PossibleKey where
  /-- Whether it must be a key, because of its indentation. -/
  required : Bool
  /-- How many tokens come before it. -/
  position : Nat
  mark : Mark
deriving DecidableEq, Repr

/-- The state between two tokens. -/
structure Scan where
  cursor : Cursor
  tokens : Array Token := #[]
  /-- The possible key of each flow collection that is open, the innermost one first. -/
  innerKeys : List (Option PossibleKey) := []
  /-- The possible key of the innermost collection. -/
  possibleKey : Option PossibleKey := none
  /-- The indentation of the innermost block collection, and of those around it. -/
  indent : Int := -1
  outerIndents : List Int := []
  /-- Whether a key may start here. -/
  keyAllowed : Bool := true
deriving Repr

namespace Scan

/-- How many flow collections are open. -/
def depth (s : Scan) : Nat := s.innerKeys.length

/-- Whether a flow collection is open. -/
def inFlow (s : Scan) : Bool := s.depth != 0

/-- The place before the next character. -/
def mark (s : Scan) : Mark := s.cursor.mark

/-- The column as a level of indentation. -/
def column (s : Scan) : Int := s.mark.column

/-- Adds a token that ends at the place of the cursor. -/
def push (s : Scan) (kind : TokenKind) (start : Mark) : Scan :=
  { s with tokens := s.tokens.push ⟨kind, start, s.mark⟩ }

/-- Adds a token in front of the one at a position. -/
def insertAt (s : Scan) (position : Nat) (kind : TokenKind) (mark : Mark) : Scan :=
  { s with tokens := s.tokens.insertIdxIfInBounds position ⟨kind, mark, mark⟩ }

/-- Moves the cursor. -/
def moveTo (s : Scan) (cursor : Cursor) : Scan := { s with cursor }

/-- The error that a possible key is not followed by a colon. -/
def missingColon {α : Type} (s : Scan) (key : PossibleKey) : Except SyntaxError α :=
  .error ⟨.missingColon, s.mark, some (.simpleKey, key.mark)⟩

/-- How long a key may be. -/
def maxKeyLength : Nat := 1024

/-- Whether a key that started at a mark is on another line or too far back. -/
def isStale (s : Scan) (key : PossibleKey) : Bool :=
  key.mark.line < s.mark.line || key.mark.index + maxKeyLength < s.mark.index

/-- A possible key as it is now: a stale one is none. -/
def refresh (s : Scan) : Option PossibleKey → Except SyntaxError (Option PossibleKey)
  | none => .ok none
  | some key =>
    if !s.isStale key then .ok (some key)
    else if key.required then s.missingColon key
    else .ok none

/-- Drops all stale keys, the outermost one first. -/
def dropStaleKeys (s : Scan) : Except SyntaxError Scan := do
  let outer ← s.innerKeys.reverse.mapM s.refresh
  let possibleKey ← s.refresh s.possibleKey
  return { s with innerKeys := outer.reverse, possibleKey }

/-- Gives up the possible key of the innermost collection. -/
def dropKey (s : Scan) : Except SyntaxError Scan :=
  match s.possibleKey with
  | some key => if key.required then s.missingColon key else .ok { s with possibleKey := none }
  | none => .ok s

/-- Remembers that the next token may be a key. -/
def markKey (s : Scan) : Except SyntaxError Scan := do
  if !s.keyAllowed then return s
  let s ← s.dropKey
  let key : PossibleKey := ⟨!s.inFlow && s.indent == s.column, s.tokens.size, s.mark⟩
  return { s with possibleKey := some key }

/-- Opens a block collection if the column is beyond the indentation. Its token goes in front of
the one at `position`. -/
def indentTo (s : Scan) (column : Nat) (position : Nat) (kind : TokenKind) (mark : Mark) : Scan :=
  if s.inFlow || (column : Int) ≤ s.indent then s
  else
    { s with indent := column, outerIndents := s.indent :: s.outerIndents }.insertAt
      position kind mark

/-- Closes the block collections that are indented beyond a column. -/
def unindentTo (s : Scan) (column : Int) : Scan :=
  if s.inFlow then s
  else
    let closed := (s.indent :: s.outerIndents).takeWhile (column < ·)
    let left := (s.indent :: s.outerIndents).drop closed.length
    let s := closed.foldl (fun s _ => s.push .blockEnd s.mark) s
    { s with indent := left.head?.getD (-1), outerIndents := left.tail }

/-- Moves over blanks, comments and breaks. A tab counts as a blank only where no key may start.
The fuel bounds the number of lines. -/
def skipGap (s : Scan) : (fuel : Nat) → Scan
  | 0 => s
  | fuel + 1 =>
    let c := s.cursor
    let c := if c.mark.column == 0 && c.startsWith '\uFEFF' then c.skip 1 else c
    let c := c.skipWhile fun x => x == ' ' || ((s.inFlow || !s.keyAllowed) && x == '\t')
    let c := c.skipComment
    if c.aheadIs 0 isBreak then
      skipGap { s with cursor := c.lineBreak.2, keyAllowed := s.keyAllowed || !s.inFlow } fuel
    else s.moveTo c

/-- Ends the stream, as if on a new line. -/
def endStream (s : Scan) : Except SyntaxError Scan := do
  let mark := s.mark
  let mark := if mark.column = 0 then mark else { mark with column := 0, line := mark.line + 1 }
  let s ← ((s.moveTo { s.cursor with mark }).unindentTo (-1)).dropKey
  return { s with keyAllowed := false }.push .streamEnd mark

/-- Reads a directive. -/
def directive (s : Scan) : Except SyntaxError Scan := do
  let s ← (s.unindentTo (-1)).dropKey
  let start := s.mark
  let (kind, stop, c) ← Property.directive s.cursor
  return { s with keyAllowed := false, cursor := c, tokens := s.tokens.push ⟨kind, start, stop⟩ }

/-- Reads a token of `n` characters. -/
def indicator (s : Scan) (kind : TokenKind) (n : Nat) : Scan :=
  (s.moveTo (s.cursor.skip n)).push kind s.mark

/-- Reads a document indicator. -/
def documentIndicator (s : Scan) (kind : TokenKind) : Except SyntaxError Scan := do
  let s ← (s.unindentTo (-1)).dropKey
  return { s with keyAllowed := false }.indicator kind 3

/-- Opens a flow collection. -/
def openFlow (s : Scan) (kind : TokenKind) : Except SyntaxError Scan := do
  let s ← s.markKey
  return { s with
    innerKeys := s.possibleKey :: s.innerKeys
    possibleKey := none
    keyAllowed := true }.indicator kind 1

/-- Closes a flow collection. -/
def closeFlow (s : Scan) (kind : TokenKind) : Except SyntaxError Scan := do
  let s ← s.dropKey
  let s :=
    match s.innerKeys with
    | key :: keys => { s with possibleKey := key, innerKeys := keys }
    | [] => s
  return { s with keyAllowed := false }.indicator kind 1

/-- Reads a comma. -/
def flowEntry (s : Scan) : Except SyntaxError Scan := do
  let s ← s.dropKey
  return { s with keyAllowed := true }.indicator .flowEntry 1

/-- The error of a token that must not stand here. -/
def misplaced {α : Type} (s : Scan) (problem : Problem) : Except SyntaxError α :=
  .error ⟨problem, s.mark, none⟩

/-- Reads a dash. -/
def blockEntry (s : Scan) : Except SyntaxError Scan := do
  if !s.inFlow && !s.keyAllowed then s.misplaced .blockEntryHere
  else
    let s := s.indentTo s.mark.column s.tokens.size .blockSequenceStart s.mark
    let s ← s.dropKey
    return { s with keyAllowed := true }.indicator .blockEntry 1

/-- Reads a question mark. -/
def explicitKey (s : Scan) : Except SyntaxError Scan := do
  if !s.inFlow && !s.keyAllowed then s.misplaced .keyHere
  else
    let s := s.indentTo s.mark.column s.tokens.size .blockMappingStart s.mark
    let s ← s.dropKey
    return { s with keyAllowed := !s.inFlow }.indicator .key 1

/-- Reads a colon. -/
def value (s : Scan) : Except SyntaxError Scan := do
  match s.possibleKey with
  | some key =>
    -- What was read before the colon turns out to be a key.
    let s := s.insertAt key.position .key key.mark
    let s := s.indentTo key.mark.column key.position .blockMappingStart key.mark
    return { s with possibleKey := none, keyAllowed := false }.indicator .value 1
  | none =>
    if !s.inFlow && !s.keyAllowed then s.misplaced .valueHere
    else
      let s := s.indentTo s.mark.column s.tokens.size .blockMappingStart s.mark
      return { s with keyAllowed := !s.inFlow }.indicator .value 1

/-- Reads an anchor or an alias. -/
def anchor (s : Scan) (context : Context) (kind : String → TokenKind) :
    Except SyntaxError Scan := do
  let s ← s.markKey
  let start := s.mark
  let (name, c) ← Property.anchor context s.cursor
  return ({ s with keyAllowed := false }.moveTo c).push (kind name) start

/-- Reads a tag. -/
def tag (s : Scan) : Except SyntaxError Scan := do
  let s ← s.markKey
  let start := s.mark
  let (name, c) ← Property.tag s.inFlow s.cursor
  return ({ s with keyAllowed := false }.moveTo c).push (.tag name) start

/-- Reads a block scalar. -/
def blockScalar (s : Scan) (literal : Bool) : Except SyntaxError Scan := do
  let s ← s.dropKey
  let (text, stop, c) ← Scalar.block literal s.indent s.cursor
  return { s with
    keyAllowed := true
    cursor := c
    tokens := s.tokens.push ⟨.scalar false (String.ofList text), s.mark, stop⟩ }

/-- Reads a quoted scalar. -/
def quotedScalar (s : Scan) (single : Bool) : Except SyntaxError Scan := do
  let s ← s.markKey
  let start := s.mark
  let (text, c) ← Scalar.quoted single s.cursor
  return ({ s with keyAllowed := false }.moveTo c).push (.scalar false (String.ofList text)) start

/-- Reads a plain scalar. -/
def plainScalar (s : Scan) : Except SyntaxError Scan := do
  let s ← s.markKey
  let r ← Scalar.plain s.inFlow (s.indent + 1).toNat s.cursor
  return { s with
    keyAllowed := r.broken
    cursor := r.cursor
    tokens := s.tokens.push ⟨.scalar true (String.ofList r.text), s.mark, r.stop⟩ }

/-- The characters that do not start a plain scalar by themselves. -/
def isIndicator (x : Char) : Bool :=
  "-?:,[]#&*!|>'\"%@`".toList.contains x || x == '\x7b' || x == '\x7d'

/-- Whether a plain scalar starts here. A dash, and outside flow collections a question mark or
colon, may start one if text follows. -/
def startsPlain (s : Scan) : Bool :=
  let c := s.cursor
  match c.ahead? 0 with
  | none => false
  | some x =>
    !(isBlank x || isBreak x || isIndicator x)
      || (x == '-' && !c.aheadIs 1 isBlank)
      || (!s.inFlow && (x == '?' || x == ':') && !c.gapAt 1)

/-- Reads the token that starts with a character. -/
def tokenAt (s : Scan) (x : Char) : Except SyntaxError Scan :=
  let c := s.cursor
  if c.mark.column == 0 && x == '%' then s.directive
  else if c.atDocumentIndicator then
    s.documentIndicator (if x == '-' then .documentStart else .documentEnd)
  else if x == '[' then s.openFlow .flowSequenceStart
  else if x == '\x7b' then s.openFlow .flowMappingStart
  else if x == ']' then s.closeFlow .flowSequenceEnd
  else if x == '\x7d' then s.closeFlow .flowMappingEnd
  else if x == ',' then s.flowEntry
  else if x == '-' && c.gapAt 1 then s.blockEntry
  else if x == '?' && (s.inFlow || c.gapAt 1) then s.explicitKey
  else if x == ':' && (s.inFlow || c.gapAt 1) then s.value
  else if x == '*' then s.anchor .alias .alias
  else if x == '&' then s.anchor .anchor .anchor
  else if x == '!' then s.tag
  else if x == '|' && !s.inFlow then s.blockScalar true
  else if x == '>' && !s.inFlow then s.blockScalar false
  else if x == '\'' then s.quotedScalar true
  else if x == '"' then s.quotedScalar false
  else if s.startsPlain then s.plainScalar
  else c.fail .noToken .token c.mark

/-- Whether the stream has ended. -/
def isDone (s : Scan) : Bool := (s.tokens.back?).any (·.kind == .streamEnd)

/-- Reads the next token, and the ends of the collections that its column closes. -/
def step (s : Scan) : Except SyntaxError Scan := do
  let s ← (s.skipGap (s.cursor.rest.length + 1)).dropStaleKeys
  let s := s.unindentTo s.column
  match s.cursor.ahead? 0 with
  | none => s.endStream
  | some x => s.tokenAt x

/-- The position of the first key that is still possible: no token from there on can be used
before it is settled. -/
def settled (s : Scan) : Nat :=
  ((s.possibleKey :: s.innerKeys).filterMap (·.map (·.position))).foldl min s.tokens.size

/-- Reads tokens to the end or to the first error; gives the tokens that can be used until then.
The fuel bounds the number of steps. -/
def run : (fuel : Nat) → Scan → List Token × Option SyntaxError
  | 0, s => (s.tokens.toList, none)
  | fuel + 1, s =>
    if s.isDone then (s.tokens.toList, none)
    else match s.step with
      | .ok next => run fuel next
      -- Tokens after a key that is still possible are held back, as others may go before them.
      | .error error => (s.tokens.toList.take s.settled, some error)

end Scan

/-- The tokens of a text, up to the first error. -/
def scan (text : List Char) : List Token × Option SyntaxError :=
  Scan.run (text.length + 2) { cursor := ⟨text, {}⟩ }

end ResponseCheck.Yaml
