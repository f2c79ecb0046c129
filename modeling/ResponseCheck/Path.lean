import ResponseCheck.Mismatch

/-! A path is written as parts joined by dots. A part `*` or `?` is a wildcard, any other part a
key. Two dots in a row are refused, so that only the first and the last key may be empty. -/

namespace ResponseCheck

/-- How many elements a wildcard wants to match. -/
inductive Quantifier where
  /-- Every element. -/
  | all
  /-- At least one element. -/
  | one
deriving DecidableEq, Repr

/-- The text of a quantifier. -/
def Quantifier.text : Quantifier → String
  | .all => "*"
  | .one => "?"

/-- One part of a path. -/
inductive Segment where
  | literal (key : String)
  | wildcard (quantifier : Quantifier)
deriving DecidableEq, Repr

/-- The text of a segment. -/
def Segment.text : Segment → String
  | .literal key => key
  | .wildcard quantifier => quantifier.text

/-- The segment that a part of a path stands for. -/
def Segment.ofPart : List Char → Segment
  | ['*'] => .wildcard .all
  | ['?'] => .wildcard .one
  | part => .literal (String.ofList part)

/-- A path, and whether a null on the way satisfies it. -/
structure Path where
  segments : List Segment
  optional : Bool := false
deriving DecidableEq, Repr

/-- Reads the segments of a path. -/
def Segment.parse (raw : String) : Except Mismatch (List Segment) :=
  if Text.occursIn ['.', '.'] raw.toList then .error (.invalidPath raw)
  else .ok ((Text.splitOn '.' raw.toList).map Segment.ofPart)

/-- Reads a path. -/
def Path.parse (optional : Bool) (raw : String) : Except Mismatch Path := do
  return ⟨← Segment.parse raw, optional⟩

/-- The text of a list of segments. -/
def Segment.join (segments : List Segment) : String :=
  String.intercalate "." (segments.map Segment.text)

/-- The text of a path. -/
def Path.text (path : Path) : String := Segment.join path.segments

/-- The path that is left after the segment at an index. -/
def Path.subPath (path : Path) (index : Nat) : Path :=
  { path with segments := path.segments.drop (index + 1) }

end ResponseCheck
