import ResponseCheck.Pattern.Automaton
import ResponseCheck.Pattern.Parser
import ResponseCheck.Pattern.Property
import ResponseCheck.Unicode.CaseFold

/-!
# From syntax to expressions

Flags are in force from where they are set to the end of the enclosing group. Without the flag `u`
a class is a class of bytes, which must not hold a byte above 0x7F, because texts are UTF-8; there
the characters below U+0100 stand for bytes.
-/

namespace ResponseCheck.Pattern

open Unicode (CharSet)

/-- The flags in force. -/
structure Flags where
  caseInsensitive : Bool := false
  multiLine : Bool := false
  dotMatchesNewline : Bool := false
  swapGreed : Bool := false
  unicode : Bool := true
  carriageReturn : Bool := false
deriving DecidableEq, Repr

/-- The flags after some were set or cleared. -/
def Flags.apply (flags : Flags) (items : FlagItems) : Flags where
  caseInsensitive := (items.value? .caseInsensitive).getD flags.caseInsensitive
  multiLine := (items.value? .multiLine).getD flags.multiLine
  dotMatchesNewline := (items.value? .dotMatchesNewline).getD flags.dotMatchesNewline
  swapGreed := (items.value? .swapGreed).getD flags.swapGreed
  unicode := (items.value? .unicode).getD flags.unicode
  carriageReturn := (items.value? .carriageReturn).getD flags.carriageReturn

/-- Closes a set under case if the flags say so. -/
def Flags.fold (flags : Flags) (set : CharSet) : CharSet :=
  if flags.caseInsensitive then
    if flags.unicode then set.caseClosed else set.asciiCaseClosed
  else set

/-- The set or its complement. -/
def negateIf (negated : Bool) (set : CharSet) : CharSet := if negated then set.complement else set

/-- A set of bytes, refused if it has one above 0x7F. -/
def asciiOnly (span : Span) (set : CharSet) : Except Fault CharSet :=
  if set.inter (.range '\x80' 'ÿ') = .empty then .ok (set.inter .ascii)
  else .error ⟨.invalidUtf8, span⟩

/-- A class after folding and negation. -/
def Flags.finish (flags : Flags) (span : Span) (negated : Bool) (set : CharSet) :
    Except Fault CharSet :=
  let set := negateIf negated (flags.fold set)
  if flags.unicode then .ok set else asciiOnly span set

/-- A literal character; a byte above 0x7F is refused where Unicode is turned off. -/
def Flags.literal (flags : Flags) (span : Span) (value : Literal) : Except Fault Char :=
  if !flags.unicode && value.byteEscape && 0x7F < value.char.toNat then
    .error ⟨.invalidUtf8, span⟩
  else .ok value.char

/-- A literal in a class; only ASCII is allowed where Unicode is turned off. -/
def Flags.classLiteral (flags : Flags) (span : Span) (value : Literal) : Except Fault Char := do
  let c ← flags.literal span value
  if !flags.unicode && 0x7F < c.toNat then throw ⟨.unicodeNotAllowed, span⟩ else return c

/-- The set of a property class. -/
def Flags.property (flags : Flags) (span : Span) (negated : Bool) (query : PropertyQuery) :
    Except Fault CharSet :=
  if !flags.unicode then .error ⟨.unicodeNotAllowed, span⟩
  else match query.resolve with
    | .ok set => flags.finish span (negated != query.differs) set
    | .error .unknownName => .error ⟨.propertyNotFound, span⟩
    | .error .unknownValue => .error ⟨.propertyValueNotFound, span⟩

/-- The set of a one-letter class. -/
def Flags.shorthand (flags : Flags) (span : Span) (negated : Bool) (kind : Shorthand) :
    Except Fault CharSet :=
  let set := negateIf negated (kind.set flags.unicode)
  if flags.unicode then .ok set else asciiOnly span set

mutual

/-- The set of the content of a bracketed class. -/
def ClassSet.toCharSet (flags : Flags) : ClassSet → Except Fault CharSet
  | .literal span value => return .single (← flags.classLiteral span value)
  | .range _ low lowSpan high highSpan => do
    return .range (← flags.classLiteral lowSpan low) (← flags.classLiteral highSpan high)
  | .ascii span negated kind => flags.finish span negated kind.set
  | .property span negated query => flags.property span negated query
  | .shorthand span negated kind => flags.shorthand span negated kind
  | .bracketed span negated content => do
    flags.finish span negated (← content.toCharSet flags)
  | .union _ items => unionOf flags items
  | .binary _ operator left right => do
    let left ← left.toCharSet flags
    let right ← right.toCharSet flags
    return operator.apply (flags.fold left) (flags.fold right)

/-- The union of the sets of several items. -/
def unionOf (flags : Flags) : List ClassSet → Except Fault CharSet
  | [] => return .empty
  | item :: items => do
    let first ← item.toCharSet flags
    return first.union (← unionOf flags items)

end

/-- The condition of an assertion under flags. -/
def Look.toCondition (flags : Flags) : Look → Condition
  | .startOfText => .startOfText
  | .endOfText => .endOfText
  | .startOfLine => if flags.multiLine then .startOfLine flags.carriageReturn else .startOfText
  | .endOfLine => if flags.multiLine then .endOfLine flags.carriageReturn else .endOfText
  | kind => .word kind flags.unicode

/-- The set that a dot stands for. -/
def Flags.dot (flags : Flags) (span : Span) : Except Fault CharSet :=
  if !flags.unicode then .error ⟨.invalidUtf8, span⟩
  else if flags.dotMatchesNewline then .ok .all
  else if flags.carriageReturn then .ok (CharSet.unions [.single '\r', .single '\n']).complement
  else .ok (CharSet.single '\n').complement

mutual

/-- The expression of a pattern under flags, and the flags after it. -/
def Ast.toExpr (flags : Flags) : Ast → Except Fault (Expr × Flags)
  | .empty _ => return (.empty, flags)
  | .flags _ items => return (.empty, flags.apply items)
  | .literal span value => do
    let c ← flags.literal span value
    return (if flags.caseInsensitive then .ofSet (flags.fold (.single c)) else .literal [c], flags)
  | .dot span => return (.ofSet (← flags.dot span), flags)
  | .look _ kind => return (.condition (kind.toCondition flags), flags)
  | .property span negated query => return (.ofSet (← flags.property span negated query), flags)
  | .shorthand span negated kind => return (.ofSet (← flags.shorthand span negated kind), flags)
  | .bracketed span negated content => do
    return (.ofSet (← flags.finish span negated (← content.toCharSet flags)), flags)
  | .repetition _ least most greedy body => do
    let (body, flags) ← body.toExpr flags
    return (.repeated body least most (greedy != flags.swapGreed), flags)
  | .group _ items capture body => do
    let (body, _) ← body.toExpr (flags.apply items)
    return ((capture.map fun index => .capture index body).getD body, flags)
  | .alternation _ branches => do
    let (branches, flags) ← toExprs flags branches
    return (.anyOf branches, flags)
  | .concat _ parts => do
    let (parts, flags) ← toExprs flags parts
    return (.inOrder parts, flags)

/-- The expressions of patterns one after the other. -/
def toExprs (flags : Flags) : List Ast → Except Fault (List Expr × Flags)
  | [] => return ([], flags)
  | part :: parts => do
    let (first, flags) ← part.toExpr flags
    let (rest, flags) ← toExprs flags parts
    return (first :: rest, flags)

end

/-- The expression of a pattern. -/
def compile (pattern : String) : Except Error Expr :=
  match (do (← parse pattern).toExpr {} : Except Fault (Expr × Flags)) with
  | .error fault => .error (.flawed pattern fault)
  | .ok (e, _) => if e.fits then .ok e else .error (.tooLarge sizeLimit)

end ResponseCheck.Pattern
