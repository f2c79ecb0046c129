import ResponseCheck.Text.Quoted
import ResponseCheck.Yaml.Node.Link
import ResponseCheck.Yaml.Value

/-!
# From YAML nodes to values

Aliases are followed, plain scalars are read by the core schema, and a mapping must not have the
same key twice. Collections nest at most 128 deep, and the number of aliases that are followed is
bounded by the size of the document.
-/

namespace ResponseCheck.Yaml

/-- Why a document has no value. -/
inductive ValueCause where
  | nestingTooDeep
  | tooManyAliases
  | duplicateKey (key : Value)
  | integerTooLarge (value : Int)
  /-- A scalar does not fit its tag. -/
  | wrongScalar (text expected : String)
deriving Repr

/-- Why a document has no value, and where that shows. -/
structure ValueError where
  cause : ValueCause
  mark : Mark
  path : String
deriving Repr

/-- A number in messages. -/
def numberText : Extended → String
  | .finite x => (Json.Number.float x).text
  | .infinity false => ".inf"
  | .infinity true => "-.inf"
  | .undefined => ".nan"

/-- The words for a key that occurs twice. -/
def Value.keyWords : Value → String
  | .null => "with null key"
  | .bool b => s!"with key `{b}`"
  | .int n => s!"with key {n}"
  | .real x => "with key " ++ numberText x
  | .str text => "with key " ++ Text.quoted text
  | _ => "in YAML map"

/-- The words for a cause. -/
def ValueCause.words : ValueCause → String
  | .nestingTooDeep => "recursion limit exceeded"
  | .tooManyAliases => "repetition limit exceeded"
  | .duplicateKey key => "duplicate entry " ++ key.keyWords
  | .integerTooLarge n =>
    let type := if n < 0 then "i128" else "u128"
    s!"invalid type: integer `{n}` as {type}, expected any YAML value"
  | .wrongScalar text expected =>
    "invalid value: string " ++ Text.quoted text ++ ", expected " ++ expected

/-- Whether a cause is shown with the path to it. -/
def ValueCause.showsPath : ValueCause → Bool
  | .nestingTooDeep => false
  | .tooManyAliases => false
  | _ => true

/-- The message of an error. -/
def ValueError.message (e : ValueError) : String :=
  let path := if e.cause.showsPath && e.path != "." then e.path ++ ": " else ""
  let place :=
    match e.cause with
    | .tooManyAliases => ""
    | _ => if e.mark.isStart then "" else " at " ++ e.mark.text
  path ++ e.cause.words ++ place

/-! ### Scalars -/

/-- The integer of a scalar: 64 bits are the most, and up to 128 bits it is not taken for a binary
number instead. -/
def Value.ofInteger (n : Int) : Option (Except ValueCause Value) :=
  if -0x8000000000000000 ≤ n ∧ n < 0x10000000000000000 then some (.ok (.int n))
  else if -0x80000000000000000000000000000000 ≤ n ∧ n < 0x100000000000000000000000000000000 then
    some (.error (.integerTooLarge n))
  else none

/-- The number of a scalar as an integer. -/
def Value.ofIntegerText (text : String) : Option (Except ValueCause Value) :=
  (integer? text.toList).bind ofInteger

/-- The value of a plain scalar without a tag. -/
def Value.ofPlain (text : String) : Except ValueCause Value :=
  if text.isEmpty || isNull text then .ok .null
  else match bool? text, ofIntegerText text with
    | some b, _ => .ok (.bool b)
    | none, some outcome => outcome
    | none, none =>
      if hasLeadingZero text.toList then .ok (.str text)
      else match real? text.toList with
        | some x => .ok (.real x)
        | none => .ok (.str text)

/-- The start of the tags of the core schema. -/
def coreTag (name : String) : String := "tag:yaml.org,2002:" ++ name

/-- The value of a scalar with a tag. -/
def Value.ofTaggedScalar (tag text : String) : Except ValueCause Value :=
  if tag == coreTag "bool" then
    match bool? text with
    | some b => .ok (.bool b)
    | none => .error (.wrongScalar text "a boolean")
  else if tag == coreTag "int" then
    (ofIntegerText text).getD (.error (.wrongScalar text "an integer"))
  else if tag == coreTag "float" then
    match real? text.toList with
    | some x => .ok (.real x)
    | none => .error (.wrongScalar text "a float")
  else if tag == coreTag "null" then
    if isNull text then .ok .null else .error (.wrongScalar text "null")
  else .ok (.str text)

/-- The value of a scalar. -/
def Value.ofScalar (tag : Option String) (plain : Bool) (text : String) :
    Except ValueCause Value :=
  match tag with
  | some tag => ofTaggedScalar tag text
  | none => if plain then ofPlain text else .ok (.str text)

/-! ### Collections -/

/-- What is needed to follow aliases. -/
structure Scope where
  anchors : Anchors
  /-- How many aliases may be followed. -/
  maxJumps : Nat

/-- A step that makes a value, and counts the aliases that were followed. -/
abbrev Building := StateT Nat (Except ValueError)

/-- The name of a tag that belongs to the value, if a tag is of that kind. -/
def ownTag? (tag : Option String) : Option String :=
  match tag.map String.toList with
  | some ['!'] => some "!"
  | some ('!' :: name) => some (String.ofList name)
  | _ => none

/-- The path to an item. -/
def itemPath (path : String) (index : Nat) : String := s!"{path}[{index}]"

/-- A path that something is added to. -/
def parentPath (path : String) : String := if path == "." then "" else path ++ "."

/-- The path to the value under a key. -/
def entryPath (path : String) : LinkedNode → String
  | .scalar _ _ key => parentPath path ++ key
  | _ => parentPath path ++ "?"

/-- Adds an entry, or fails if its key is there. -/
def addEntry (mark : Mark) (path : String) (entries : List (Value × Value)) (key : Value)
    (value : Building Value) : Building (List (Value × Value)) := do
  if entries.any fun (k, _) => k.same key then throw ⟨.duplicateKey key, mark, path⟩
  else return entries ++ [(key, ← value)]

/-- Counts an alias that is followed. -/
def jump (scope : Scope) (mark : Mark) (path : String) : Building Unit := do
  let count := (← get) + 1
  if scope.maxJumps < count then throw ⟨.tooManyAliases, mark, path⟩
  set count

/-- Follows an alias, if a node is one; the tag of the target counts anew. -/
def follow (scope : Scope) (path : String) (build : (tagged : Bool) → LinkedNode → Building Value)
    (tagged : Bool) : LinkedNode → Building Value
  | .alias mark number => do
    jump scope mark path
    match scope.anchors.target? number with
    | some target => build false target
    | none => throw ⟨.tooManyAliases, mark, path⟩
  | node => build tagged node

/-- The value of a node that is no alias, without its own tag if `tagged`. Collections in it may
nest `depth` deep. -/
def build (scope : Scope) : (depth : Nat) → (path : String) → (tagged : Bool) → LinkedNode →
    Building Value
  | depth, path, tagged, node => do
    let wrap (p : Properties) (value : Building Value) : Building Value :=
      match tagged, ownTag? p.tag with
      | false, some tag => .tagged tag <$> value
      | _, _ => value
    match node with
    | .alias mark _ => throw ⟨.tooManyAliases, mark, path⟩
    | .scalar p plain text =>
      let isTagged := tagged || (ownTag? p.tag).isSome
      let outcome :=
        if isTagged then Value.ofScalar none plain text else Value.ofScalar p.tag plain text
      match outcome with
      | .ok value => wrap p (pure value)
      | .error cause => throw ⟨cause, p.mark, path⟩
    | .sequence p items =>
      match depth with
      | 0 => throw ⟨.nestingTooDeep, p.mark, path⟩
      | depth + 1 =>
        wrap p do
          let values ← items.zipIdx.mapM fun (item, i) =>
            let path := itemPath path i
            follow scope path (build scope depth path) false item
          return .seq values
    | .mapping p entries =>
      -- Keys of a mapping with a tag of its own are read without theirs.
      match depth with
      | 0 => throw ⟨.nestingTooDeep, p.mark, path⟩
      | depth + 1 =>
        let inside := tagged || (ownTag? p.tag).isSome
        wrap p do
          let pairs ← entries.foldlM
            (fun pairs (key, value) => do
              let k ← follow scope path (build scope depth path) inside key
              let path' := entryPath path key
              addEntry p.mark path pairs k
                (follow scope path' (build scope depth path') false value))
            []
          return .map pairs

/-- How deep collections may nest. -/
def maxDepth : Nat := 128

/-- The value of a linked document with a number of beginnings and ends. -/
def Value.ofDocument (root : LinkedNode) (anchors : Anchors) : Except ValueError Value :=
  (·.1) <$> (build ⟨anchors, root.eventCount * 100⟩ maxDepth "." false root).run 0

end ResponseCheck.Yaml
