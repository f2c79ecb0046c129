import ResponseCheck.Pattern.Expr

/-!
# Normal forms of expressions

Expressions are built in a normal form, in which neighbouring literals are one literal, sequences
and alternatives are not nested in their own kind, alternatives of single characters are a set, and
what all alternatives start with stands before them. A pattern matches the same texts without it;
how much space it takes depends on it.
-/

namespace ResponseCheck.Pattern

open Unicode (CharSet)

namespace Expr

/-- The expression that matches nothing. -/
def never : Expr := .set .empty

/-- The expression for one character of a set. -/
def ofSet (s : CharSet) : Expr := (s.only?.map fun c => .literal [c]).getD (.set s)

mutual

/-- The bytes of the shortest match; `none` where nothing matches. -/
def minLength : Expr → Option Nat
  | .empty | .condition _ => some 0
  | .literal chars => some (chars.flatMap String.utf8EncodeChar).length
  | .set s => s.points[0]?.map fun n => (Char.ofNat n).utf8Size
  | .capture _ body => body.minLength
  | .concat parts => minLengthInOrder parts
  | .alternation branches => minLengthOfAny branches
  | .repetition body least _ _ => body.minLength.map (least * ·)

/-- The same for expressions one after the other. -/
def minLengthInOrder : List Expr → Option Nat
  | [] => some 0
  | part :: parts => return (← part.minLength) + (← minLengthInOrder parts)

/-- The same for alternatives, all of which must have a match. -/
def minLengthOfAny : List Expr → Option Nat
  | [] => none
  | [branch] => branch.minLength
  | branch :: branches => return min (← branch.minLength) (← minLengthOfAny branches)

end

mutual

/-- Whether all matches are empty. Where nothing matches, this is not said. -/
def isBlank : Expr → Bool
  | .empty | .condition _ => true
  | .literal chars => chars.isEmpty
  | .set _ => false
  | .capture _ body => body.isBlank
  | .concat parts => allBlank parts
  | .alternation branches => allBlank branches
  | .repetition body _ _ _ => body.isBlank

/-- The same for a list. -/
def allBlank : List Expr → Bool
  | [] => true
  | e :: es => e.isBlank && allBlank es

end

mutual

/-- Whether two expressions are equal. -/
def same : Expr → Expr → Bool
  | .empty, .empty => true
  | .literal a, .literal b => a == b
  | .set a, .set b => a == b
  | .condition a, .condition b => a == b
  | .capture i a, .capture j b => i == j && same a b
  | .concat as, .concat bs | .alternation as, .alternation bs => allSame as bs
  | .repetition a least most greedy, .repetition b least' most' greedy' =>
    least == least' && most == most' && greedy == greedy' && same a b
  | _, _ => false

/-- Whether two lists of expressions are equal. -/
def allSame : List Expr → List Expr → Bool
  | [], [] => true
  | a :: as, b :: bs => same a b && allSame as bs
  | _, _ => false

end

/-- Adds a part before a sequence. -/
def prepend : Expr → List Expr → List Expr
  | .literal a, .literal b :: rest => .literal (a ++ b) :: rest
  | part, parts => part :: parts

/-- Expressions one after the other. -/
def inOrder (parts : List Expr) : Expr :=
  let flat := parts.flatMap fun
    | .empty => []
    | .concat parts => parts
    | part => [part]
  match flat.foldr prepend [] with
  | [] => .empty
  | [part] => part
  | parts => .concat parts

/-- The set of an expression for a single character, where it is written as one. -/
def single? : Expr → Option CharSet
  | .literal [c] => some (.single c)
  | _ => none

/-- The set of an expression that is a set. -/
def set? : Expr → Option CharSet
  | .set s => some s
  | _ => none

/-- The alternatives of an expression. -/
def branches : Expr → List Expr
  | .alternation branches => branches
  | e => [e]

/-- Alternatives that do not start with the same part. -/
def choose (branches : List Expr) : Expr :=
  match branches with
  | [] => never
  | [branch] => branch
  | _ =>
    match branches.mapM single?, branches.mapM set? with
    | some sets, _ | none, some sets => ofSet (.unions sets)
    | none, none => .alternation branches

/-- The parts of a sequence; other expressions are not looked into. -/
def parts : Expr → List Expr
  | .concat parts => parts
  | _ => []

/-- The parts that two lists start with. -/
def commonPrefix : List Expr → List Expr → List Expr
  | a :: as, b :: bs => if same a b then a :: commonPrefix as bs else []
  | _, _ => []

/-- Alternatives of each other. -/
def anyOf (alternatives : List Expr) : Expr :=
  let flat := alternatives.flatMap branches
  match flat with
  | first :: second :: rest =>
    let common := (second :: rest).foldl (fun found e => commonPrefix found e.parts) first.parts
    if common.isEmpty then choose flat
    else
      -- The rests have no part in common, so that one round is enough.
      let rests := flat.map fun e => inOrder (e.parts.drop common.length)
      inOrder (common ++ [choose (rests.flatMap branches)])
  | _ => choose flat

/-- The repetition of an expression; more than one round makes no difference to blank matches. -/
def repeated (body : Expr) (least : Nat) (most : Option Nat) (greedy : Bool) : Expr :=
  let least := if body.isBlank then min least 1 else least
  let most := if body.isBlank then some (min (most.getD 1) 1) else most
  if most = some 0 then .empty
  else if least = 1 ∧ most = some 1 then body
  else .repetition body least most greedy

end Expr

end ResponseCheck.Pattern
