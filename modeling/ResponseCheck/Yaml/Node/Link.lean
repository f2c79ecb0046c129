import ResponseCheck.Yaml.Node

/-! An anchor has a number, which is how many names of anchors were in use before it; a name that is
used again keeps its place among them. An alias points to the last node whose anchor had the number
that its name has at the alias. -/

namespace ResponseCheck.Yaml

/-- A node whose aliases point to numbers of anchors. -/
abbrev LinkedNode := Node Nat

/-- The anchors of a document. -/
structure Anchors where
  /-- The numbers of names. -/
  numbers : List (String × Nat) := []
  /-- Where the node with a number starts, the last one first. -/
  starts : List (Nat × Nat) := []
  /-- The nodes with an anchor by their start. -/
  nodes : List (Nat × LinkedNode) := []

namespace Anchors

/-- Gives a name to the node that starts at an index. -/
def declare (a : Anchors) (name : String) (index : Nat) : Anchors :=
  let number := a.numbers.length
  { a with
    numbers := (name, number) :: a.numbers.filter (·.1 != name)
    starts := (number, index) :: a.starts }

/-- The node with a number. -/
def target? (a : Anchors) (number : Nat) : Option LinkedNode := do
  a.nodes.lookup (← a.starts.lookup number)

end Anchors

/-- A step that links a part of a document. -/
abbrev Linking := StateT Anchors (Except SyntaxError)

/-- Links a node inside its properties: the anchor is declared before the content is read. -/
def withAnchor (p : Properties) (content : Linking LinkedNode) : Linking LinkedNode := do
  match p.anchor with
  | none => content
  | some name =>
    modify (·.declare name p.mark.index)
    let node ← content
    modify fun a => { a with nodes := (p.mark.index, node) :: a.nodes }
    return node

mutual

/-- Links a node. -/
def linkNode : Node String → Linking LinkedNode
  | .alias mark name => do
    match (← get).numbers.lookup name with
    | some number => return .alias mark number
    | none => throw ⟨.unknownAnchor, mark, none⟩
  | .scalar p plain text => withAnchor p (pure (.scalar p plain text))
  | .sequence p items => withAnchor p (.sequence p <$> linkItems items)
  | .mapping p entries => withAnchor p (.mapping p <$> linkEntries entries)

/-- Links the items of a sequence. -/
def linkItems : List (Node String) → Linking (List LinkedNode)
  | [] => return []
  | item :: rest => do
    let item ← linkNode item
    return item :: (← linkItems rest)

/-- Links the entries of a mapping. -/
def linkEntries : List (Node String × Node String) → Linking (List (LinkedNode × LinkedNode))
  | [] => return []
  | (key, value) :: rest => do
    let key ← linkNode key
    let value ← linkNode value
    return (key, value) :: (← linkEntries rest)

end

/-- Links a document. -/
def link (root : Node String) : Except SyntaxError (LinkedNode × Anchors) :=
  (linkNode root).run {}

end ResponseCheck.Yaml
