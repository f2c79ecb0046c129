import ResponseCheck.Yaml.Node
import ResponseCheck.Yaml.Token.Scan

/-!
# From YAML tokens to nodes

Tokens become nodes by recursive descent. A node that is left out is an empty scalar; an alias keeps
the name that it has in the text.
-/

namespace ResponseCheck.Yaml

/-- Tokens, and the error after them. -/
structure Tokens where
  list : List Token
  fault : SyntaxError
deriving Repr

/-- A node whose aliases point to names. -/
abbrev NamedNode := Node String

namespace Tokens

/-- The next token. -/
def peek (s : Tokens) : Except SyntaxError Token :=
  match s.list with
  | token :: _ => .ok token
  | [] => .error s.fault

/-- The tokens after the next one. -/
def tail (s : Tokens) : Tokens := { s with list := s.list.tail }

/-- A step that reads a part of the tokens. -/
abbrev Step (α : Type) := Tokens → Except SyntaxError (α × Tokens)

/-- The error of a problem at a token, while reading what began at `start`. -/
def fail {α : Type} (token : Token) (problem : Problem) (context : Context) (start : Mark) :
    Except SyntaxError α :=
  .error ⟨problem, token.start, some (context, start)⟩

/-- The handles of tags with their expansions. -/
abbrev Handles := List (String × String)

/-- The handles that need no directive. -/
def standardHandles : Handles := [("!", "!"), ("!!", "tag:yaml.org,2002:")]

/-- The full tag of a written one. -/
def expandTag (handles : Handles) (name : TagName) : Option String :=
  if name.handle.isEmpty then some name.suffix
  else (handles.lookup name.handle).map (· ++ name.suffix)

/-- Reads an anchor, if there is one. -/
def anchor? : Step (Option String) := fun s => do
  let token ← s.peek
  match token.kind with
  | .anchor name => return (some name, s.tail)
  | _ => return (none, s)

/-- Reads a tag, if there is one. -/
def tag? (handles : Handles) (start : Mark) : Step (Option String) := fun s => do
  let token ← s.peek
  match token.kind with
  | .tag name =>
    match expandTag handles name with
    | some tag => return (some tag, s.tail)
    | none => fail token .tagHandle .node start
  | _ => return (none, s)

/-- Reads an anchor and a tag in either order. An unknown handle shows only after both. -/
def properties (handles : Handles) : Step Properties := fun s => do
  let mark := (← s.peek).start
  let (anchor, s) ← anchor? s
  let (tag, s) ← tag? handles mark s
  match anchor with
  | some _ => return ({ mark, anchor, tag }, s)
  | none =>
    if tag.isNone then return ({ mark }, s)
    else
      let (anchor, s) ← anchor? s
      return ({ mark, anchor, tag }, s)

/-- A scalar; a tag that is a mere mark makes no difference. -/
def scalarNode (p : Properties) (plain : Bool) (text : String) : NamedNode :=
  .scalar (if p.tag = some "!" then { p with tag := none } else p) plain text

/-- Where a node stands. -/
inductive Place where
  /-- In a flow collection. -/
  | flow
  /-- In a block. -/
  | block
  /-- In a block mapping, where a sequence need not be indented. -/
  | blockEntry
deriving DecidableEq, Repr

/-- The context of errors in a node at a place. -/
def Place.context : Place → Context
  | .flow => .flowNode
  | _ => .blockNode

/-- Tokens that end an entry of a block sequence. -/
def endsItem : TokenKind → Bool
  | .blockEntry | .blockEnd => true
  | _ => false

/-- Tokens that end a key or value of a block mapping. -/
def endsEntry : TokenKind → Bool
  | .key | .value | .blockEnd => true
  | _ => false

/-- Tokens that end an entry of a sequence that is not indented. -/
def endsIndentlessItem (kind : TokenKind) : Bool := kind == .blockEntry || endsEntry kind

/-- Tokens that end a key of a flow collection. -/
def endsFlowKey (close : TokenKind) (kind : TokenKind) : Bool :=
  kind == .value || kind == .flowEntry || kind == close

/-- Tokens that end a value of a flow collection. -/
def endsFlowValue (close : TokenKind) (kind : TokenKind) : Bool :=
  kind == .flowEntry || kind == close

/-- Reads what `read` reads, or nothing if the next token satisfies `ends`. -/
def orEmpty (ends : TokenKind → Bool) (mark : Mark) (read : Step NamedNode) : Step NamedNode :=
  fun s => do
  if ends (← s.peek).kind then return (.empty mark, s) else read s

/-- The node where no content follows: an anchor or tag alone stands for an empty scalar. -/
def noContent (place : Place) (p : Properties) (token : Token) : Step NamedNode := fun s =>
  if p.anchor.isSome || p.tag.isSome then .ok (.scalar p true "", s)
  else fail token .nodeContent place.context p.mark

mutual

/-- Reads a node. The fuel bounds the number of steps; three for each token are enough. -/
def node (handles : Handles) (place : Place) : (fuel : Nat) → Step NamedNode
  | 0, s => .error s.fault
  | fuel + 1, s => do
    let first ← s.peek
    if let .alias name := first.kind then return (.alias first.start name, s.tail)
    let (p, s) ← properties handles s
    let token ← s.peek
    match token.kind with
    | .blockEntry =>
      if place = .blockEntry then
        let (items, s) ← indentlessItems handles fuel s
        return (.sequence p items, s)
      else noContent place p token s
    | .scalar plain text => return (scalarNode p plain text, s.tail)
    | .flowSequenceStart =>
      let (items, s) ← flowItems handles token.start fuel true s.tail
      return (.sequence p items, s)
    | .flowMappingStart =>
      let (entries, s) ← flowEntries handles token.start fuel true s.tail
      return (.mapping p entries, s)
    | .blockSequenceStart =>
      if place = .flow then noContent place p token s
      else
        let (items, s) ← blockItems handles token.start fuel s.tail
        return (.sequence p items, s)
    | .blockMappingStart =>
      if place = .flow then noContent place p token s
      else
        let (entries, s) ← blockEntries handles token.start fuel s.tail
        return (.mapping p entries, s)
    | _ => noContent place p token s

/-- Reads the entries of a block sequence, and its end. -/
def blockItems (handles : Handles) (start : Mark) : (fuel : Nat) → Step (List NamedNode)
  | 0, s => .error s.fault
  | fuel + 1, s => do
    let token ← s.peek
    match token.kind with
    | .blockEntry =>
      let (item, s) ← orEmpty endsItem token.stop (node handles .block fuel) s.tail
      let (items, s) ← blockItems handles start fuel s
      return (item :: items, s)
    | .blockEnd => return ([], s.tail)
    | _ => fail token .dashIndicator .blockCollection start

/-- Reads the entries of a sequence that is not indented. -/
def indentlessItems (handles : Handles) : (fuel : Nat) → Step (List NamedNode)
  | 0, s => .error s.fault
  | fuel + 1, s => do
    let token ← s.peek
    match token.kind with
    | .blockEntry =>
      let (item, s) ← orEmpty endsIndentlessItem token.stop (node handles .block fuel) s.tail
      let (items, s) ← indentlessItems handles fuel s
      return (item :: items, s)
    | _ => return ([], s)

/-- Reads the entries of a block mapping, and its end. -/
def blockEntries (handles : Handles) (start : Mark) : (fuel : Nat) →
    Step (List (NamedNode × NamedNode))
  | 0, s => .error s.fault
  | fuel + 1, s => do
    let token ← s.peek
    match token.kind with
    | .key =>
      let (key, s) ← orEmpty endsEntry token.stop (node handles .blockEntry fuel) s.tail
      let next ← s.peek
      let (value, s) ←
        if next.kind == .value then
          orEmpty endsEntry next.stop (node handles .blockEntry fuel) s.tail
        else pure (.empty next.start, s)
      let (entries, s) ← blockEntries handles start fuel s
      return ((key, value) :: entries, s)
    | .blockEnd => return ([], s.tail)
    | _ => fail token .mappingKey .blockMapping start

/-- Reads the value of an entry of a flow collection, if there is a colon. -/
def flowValue (handles : Handles) (close : TokenKind) : (fuel : Nat) → Step NamedNode
  | 0, s => .error s.fault
  | fuel + 1, s => do
    let token ← s.peek
    if token.kind == .value then
      let mark := (← s.tail.peek).start
      orEmpty (endsFlowValue close) mark (node handles .flow fuel) s.tail
    else return (.empty token.start, s)

/-- Reads a pair in a flow sequence after its question mark, or where a key starts. Where there is
no key, the token that shows this is passed over. -/
def flowPair (handles : Handles) (mark : Mark) : (fuel : Nat) → Step NamedNode
  | 0, s => .error s.fault
  | fuel + 1, s => do
    let token ← s.peek
    let (key, s) ←
      if endsFlowKey .flowSequenceEnd token.kind then pure (.empty token.stop, s.tail)
      else node handles .flow fuel s
    let (value, s) ← flowValue handles .flowSequenceEnd fuel s
    return (.mapping { mark } [(key, value)], s)

/-- Reads the entries of a flow sequence, and its end. -/
def flowItems (handles : Handles) (start : Mark) : (fuel : Nat) → (first : Bool) →
    Step (List NamedNode)
  | 0, _, s => .error s.fault
  | fuel + 1, first, s => do
    let token ← s.peek
    if token.kind == .flowSequenceEnd then return ([], s.tail)
    let s ←
      if first then pure s
      else if token.kind == .flowEntry then pure s.tail
      else fail token .commaOrBracket .flowSequence start
    let token ← s.peek
    match token.kind with
    | .flowSequenceEnd => return ([], s.tail)
    | .key =>
      let (item, s) ← flowPair handles token.start fuel s.tail
      let (items, s) ← flowItems handles start fuel false s
      return (item :: items, s)
    | _ =>
      let (item, s) ← node handles .flow fuel s
      let (items, s) ← flowItems handles start fuel false s
      return (item :: items, s)

/-- Reads the entries of a flow mapping, and its end. -/
def flowEntries (handles : Handles) (start : Mark) : (fuel : Nat) → (first : Bool) →
    Step (List (NamedNode × NamedNode))
  | 0, _, s => .error s.fault
  | fuel + 1, first, s => do
    let token ← s.peek
    if token.kind == .flowMappingEnd then return ([], s.tail)
    let s ←
      if first then pure s
      else if token.kind == .flowEntry then pure s.tail
      else fail token .commaOrBrace .flowMapping start
    let token ← s.peek
    match token.kind with
    | .flowMappingEnd => return ([], s.tail)
    | .key =>
      let mark := (← s.tail.peek).start
      let (key, s) ←
        orEmpty (endsFlowKey .flowMappingEnd) mark (node handles .flow fuel) s.tail
      let (value, s) ← flowValue handles .flowMappingEnd fuel s
      let (entries, s) ← flowEntries handles start fuel false s
      return ((key, value) :: entries, s)
    | _ =>
      let (key, s) ← node handles .flow fuel s
      let mark := (← s.peek).start
      let (entries, s) ← flowEntries handles start fuel false s
      return ((key, .empty mark) :: entries, s)

end

/-! ### Documents -/

/-- Reads directives before a document. -/
def directives : (fuel : Nat) → (versionSeen : Bool) → Handles → Step Handles
  | 0, _, _, s => .error s.fault
  | fuel + 1, versionSeen, handles, s => do
    let token ← s.peek
    match token.kind with
    | .version major minor =>
      if versionSeen then .error ⟨.duplicateVersion, token.start, none⟩
      else if major = 1 ∧ (minor = 1 ∨ minor = 2) then directives fuel true handles s.tail
      else .error ⟨.unknownVersion, token.start, none⟩
    | .tagHandle handle expansion =>
      if (handles.lookup handle).isSome then .error ⟨.duplicateTag, token.start, none⟩
      else directives fuel versionSeen (handles ++ [(handle, expansion)]) s.tail
    | _ => return (handles, s)

/-- Tokens that show that a document has no content. -/
def endsDocument : TokenKind → Bool
  | .version _ _ | .tagHandle _ _ | .documentStart | .documentEnd | .streamEnd => true
  | _ => false

/-- Tokens that come before an explicit document, or end the stream. -/
def opensDocument : TokenKind → Bool
  | .version _ _ | .tagHandle _ _ | .documentStart | .streamEnd => true
  | _ => false

/-- The first document of a stream, if it has one. -/
def firstDocument (fuel : Nat) : Step (Option NamedNode) := fun s => do
  let token ← s.peek
  if token.kind == .streamEnd then return (none, s)
  else if !opensDocument token.kind then
    let (root, s) ← node standardHandles .block fuel s
    return (some root, s)
  else
    let (handles, s) ← directives fuel false [] s
    let token ← s.peek
    if token.kind != .documentStart then .error ⟨.documentStart, token.start, none⟩
    else
      let next ← s.tail.peek
      let (root, s) ←
        orEmpty endsDocument next.start
          (node (handles ++ standardHandles) .block fuel) s.tail
      return (some root, s)

/-- Whether the stream ends after a document. -/
def endsAfter (s : Tokens) : Except SyntaxError Bool := do
  let _ ← s.peek
  match s.list.dropWhile (·.kind == .documentEnd) with
  | token :: _ => return token.kind == .streamEnd
  | [] => return false

end Tokens

/-- The first document of a text, and whether it is the only one. -/
structure Document where
  root : Option NamedNode
  single : Bool
deriving Repr

/-- Reads the first document of a text. -/
def parse (text : List Char) : Except SyntaxError Document := do
  let (list, error) := scan text
  let fault := error.getD ⟨.endOfStream, {}, none⟩
  let (root, rest) ← Tokens.firstDocument (3 * (list.length + 1)) ⟨list, fault⟩
  let single ← if root.isSome then rest.endsAfter else pure true
  return ⟨root, single⟩

end ResponseCheck.Yaml
