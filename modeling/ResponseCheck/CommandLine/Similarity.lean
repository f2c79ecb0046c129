/-! Two texts are similar if they share many characters at about the same places and in about the
same order. The measure is the mean of three ratios: the shared characters to the length of either
text, and those of them that are in order to all of them. -/

namespace ResponseCheck.CommandLine

/-- A ratio between zero and one. -/
structure Similarity where
  numerator : Nat
  denominator : Nat
deriving Repr

/-- Whether one ratio is at most another. -/
def Similarity.le (x y : Similarity) : Bool :=
  x.numerator * y.denominator ≤ y.numerator * x.denominator

/-- Marks the first character in a range of places that is equal to `c` and not marked yet. -/
def mark? (c : Char) (first last : Nat) : (place : Nat) → List (Char × Bool) →
    Option (List (Char × Bool))
  | _, [] => none
  | place, (d, marked) :: rest =>
    if first ≤ place && place ≤ last && d == c && !marked then some ((d, true) :: rest)
    else (mark? c first last (place + 1) rest).map ((d, marked) :: ·)

/-- The characters of a text, from a place on, that find a partner at most `range` places away, and
the other text with the partners marked. -/
def shared (range : Nat) : (place : Nat) → List Char → List (Char × Bool) →
    List Char × List (Char × Bool)
  | _, [], others => ([], others)
  | place, c :: rest, others =>
    match mark? c (place - range) (place + range) 0 others with
    | some marked =>
      let (found, others) := shared range (place + 1) rest marked
      (c :: found, others)
    | none => shared range (place + 1) rest others

/-- How similar two texts are. Pairs of shared characters in the wrong order count half. -/
def similarity (a b : List Char) : Similarity :=
  let range := max a.length b.length / 2 - 1
  let (found, others) := shared range 0 a (b.map (·, false))
  let partners := (others.filter (·.2)).map (·.1)
  let count := found.length
  let ordered := count - (found.zip partners).countP (fun (c, d) => c != d) / 2
  if a.isEmpty && b.isEmpty then ⟨1, 1⟩
  else if count = 0 then ⟨0, 1⟩
  else
    ⟨count * count * b.length + count * count * a.length + ordered * a.length * b.length,
      3 * a.length * b.length * count⟩

/-- The names with a similarity above seven tenths, the most similar one last. -/
def similarNames (text : String) (names : List String) : List String :=
  let scored := names.map fun name => (similarity text.toList name.toList, name)
  let close := scored.filter fun (score, _) => !score.le ⟨7, 10⟩
  (close.mergeSort fun x y => x.1.le y.1).map (·.2)

end ResponseCheck.CommandLine
