import ResponseCheck.Yaml.Error

/-! A document is a tree of nodes as it is written: aliases are not followed, scalars are texts. -/

namespace ResponseCheck.Yaml

/-- Where a node starts, and its anchor and tag. -/
structure Properties where
  mark : Mark
  anchor : Option String := none
  tag : Option String := none
deriving DecidableEq, Repr

/-- A node as it is written, where an alias points to its target by an `α`. -/
inductive Node (α : Type) where
  | alias (mark : Mark) (target : α)
  | scalar (properties : Properties) (plain : Bool) (text : String)
  | sequence (properties : Properties) (items : List (Node α))
  | mapping (properties : Properties) (entries : List (Node α × Node α))
deriving Repr

namespace Node

variable {α : Type}

/-- The node that is meant where nothing is written. -/
def empty (mark : Mark) : Node α := .scalar { mark } true ""

instance : Inhabited (Node α) := ⟨empty {}⟩

mutual

/-- How many beginnings and ends a tree has: two for a collection, and one for any other node. -/
def eventCount : Node α → Nat
  | .alias _ _ => 1
  | .scalar _ _ _ => 1
  | .sequence _ items => 2 + eventCounts items
  | .mapping _ entries => 2 + entryEventCounts entries

/-- The sum over a list. -/
def eventCounts : List (Node α) → Nat
  | [] => 0
  | node :: rest => eventCount node + eventCounts rest

/-- The sum over the entries of a mapping. -/
def entryEventCounts : List (Node α × Node α) → Nat
  | [] => 0
  | (key, value) :: rest => eventCount key + eventCount value + entryEventCounts rest

end

end Node

end ResponseCheck.Yaml
