import ResponseCheck.Unicode.CharSet

/-!
# Tables of runs

A table gives every code point a label by runs of equal labels, each kept with its first code point.
In its written form a run is a length in base 36 followed by the label, which starts with a capital.
-/

namespace ResponseCheck.Unicode

/-- Runs of equal labels: the first code point of each run with its label, in order. -/
abbrev Runs := Array (Nat × String)

/-- The label of a code point. -/
def Runs.at? (runs : Runs) (n : Nat) : Option String := do
  let i ← searchLast (fun i => runs[i]?.any (·.1 ≤ n)) runs.size
  let (_, label) ← runs[i]?
  return label

/-- The table with a written form. -/
def labelledRuns (text : List String) : Runs :=
  let step := fun (start, runs) (token : String) =>
    let digits := token.toList.takeWhile (!·.isUpper)
    let label := String.ofList (token.toList.drop digits.length)
    (start + fromBase36 (String.ofList digits), runs.push (start, label))
  ((text.flatMap (·.splitOn " ")).foldl step (0, #[])).2

/-- The characters whose labels satisfy `p`. -/
def Runs.select (runs : Runs) (p : String → Bool) : CharSet :=
  let step := fun (inside, points) (start, label) =>
    if p label = inside then (inside, points) else (p label, points.push start)
  let (inside, points) := runs.foldl step (false, #[])
  ⟨if inside then points.push codePoints else points⟩

end ResponseCheck.Unicode
