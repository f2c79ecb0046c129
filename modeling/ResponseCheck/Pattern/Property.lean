import ResponseCheck.Pattern.Syntax
import ResponseCheck.Unicode.Age
import ResponseCheck.Unicode.Category
import ResponseCheck.Unicode.Property
import ResponseCheck.Unicode.Script
import ResponseCheck.Unicode.Segmentation

/-!
# Unicode properties

A query names a binary property, a general category or a script, or it gives a value for a property
that has values. Names are compared without case, blanks, dashes, underscores and a leading `is`. A
name that stands for no property of Unicode is told apart from a value that is not available.
-/

namespace ResponseCheck.Pattern

open Unicode (CharSet)

/-- A property name without case, blanks, dashes, underscores and a leading `is`. -/
def normalizeName (name : String) : String :=
  let chars := name.toList
  let startsWithIs := match chars with
    | a :: b :: _ => (a == 'i' || a == 'I') && (b == 's' || b == 'S')
    | _ => false
  let kept := (if startsWithIs then chars.drop 2 else chars).filter fun c =>
    !(c == ' ' || c == '-' || c == '_') && c.toNat < 0x80
  let lowered := String.ofList (kept.map Char.toLower)
  -- `isc` is the name of a property, of which no more than `c` would be left.
  if startsWithIs && lowered == "c" then "isc" else lowered

/-- Why a property query has no answer. -/
inductive PropertyError where
  | unknownName
  | unknownValue
deriving DecidableEq, Repr

/-- The names of properties of Unicode for which no values are available. -/
def otherPropertyNames : List String := [
  "bc", "bidiclass", "bidimirroringglyph", "bidipairedbracket", "bidipairedbrackettype", "blk",
  "block", "bmg", "bpb", "bpt", "canonicalcombiningclass", "casefolding", "ccc", "ce", "cf",
  "changeswhennfkccasefolded", "cjkaccountingnumeric", "cjkcompatibilityvariant", "cjkiicore",
  "cjkirggsource", "cjkirghsource", "cjkirgjsource", "cjkirgkpsource", "cjkirgksource",
  "cjkirgmsource", "cjkirgssource", "cjkirgtsource", "cjkirguksource", "cjkirgusource",
  "cjkirgvsource", "cjkothernumeric", "cjkprimarynumeric", "cjkrsunicode", "compex",
  "compositionexclusion", "cwkcf", "decompositionmapping", "decompositiontype", "dm", "dt",
  "ea", "eastasianwidth", "equideo", "equivalentunifiedideograph", "expandsonnfc",
  "expandsonnfd", "expandsonnfkc", "expandsonnfkd", "fcnfkc", "fcnfkcclosure",
  "fullcompositionexclusion", "hangulsyllabletype", "hst", "incb", "indicconjunctbreak",
  "indicpositionalcategory", "indicsyllabiccategory", "inpc", "insc", "isc", "jamoshortname",
  "jg", "joininggroup", "joiningtype", "jsn", "jt", "kaccountingnumeric",
  "kcompatibilityvariant", "kehcat", "kehdesc", "kehhg", "kehifao", "kehjsesh", "kehnomirror",
  "kehnorotate", "kiicore", "kirggsource", "kirghsource", "kirgjsource", "kirgkpsource",
  "kirgksource", "kirgmsource", "kirgssource", "kirgtsource", "kirguksource", "kirgusource",
  "kirgvsource", "kothernumeric", "kprimarynumeric", "krsunicode", "lb", "lc", "linebreak",
  "lowercasemapping", "na", "na1", "name", "namealias", "nfcqc", "nfcquickcheck", "nfdqc",
  "nfdquickcheck", "nfkccasefold", "nfkccf", "nfkcqc", "nfkcquickcheck", "nfkcscf",
  "nfkcsimplecasefold", "nfkdqc", "nfkdquickcheck", "nt", "numerictype", "numericvalue", "nv",
  "ocomment", "scf", "sfc", "simplecasefolding", "simplelowercasemapping",
  "simpletitlecasemapping", "simpleuppercasemapping", "slc", "stc", "suc", "tc",
  "titlecasemapping", "uc", "unicode1name", "unicoderadicalstroke", "uppercasemapping", "urs",
  "verticalorientation", "vo", "xonfc", "xonfd", "xonfkc", "xonfkd"]

/-- The names of categories and scripts without a character. -/
def vacantNames : List String :=
  ["cs", "surrogate", "hrkt", "katakanaorhiragana", "zzzz", "unknown"]

/-- The sets of a property with values, by value, from the name of the property. -/
def valuedProperty? (name : String) : Option (String → Option CharSet) :=
  if name = "generalcategory" ∨ name = "gc" then some Unicode.category?
  else if name = "script" ∨ name = "sc" then
    some fun value => Unicode.scriptSet <$> Unicode.script? value
  else if name = "scriptextensions" ∨ name = "scx" then
    some fun value => Unicode.extensionSet <$> Unicode.script? value
  else if name = "age" then some Unicode.age?
  else Unicode.breakProperties.findSome? fun (names, runs, values) =>
    if names.contains name then
      some fun value => values.findSome? fun (label, names) =>
        if names.contains value then some (runs.select (· = label)) else none
    else none

/-- Whether a name is that of a property of Unicode. -/
def isPropertyName (name : String) : Bool :=
  (valuedProperty? name).isSome || (Unicode.property? name).isSome ||
    otherPropertyNames.contains name

/-- The set that a property query asks for, negation aside. -/
def PropertyQuery.resolve : PropertyQuery → Except PropertyError CharSet
  | .named name =>
    let name := normalizeName name
    -- These three are also names of properties, but categories come first for them.
    if isPropertyName name ∧ name ∉ ["cf", "sc", "lc"] then
      match Unicode.property? name with
      | some set => .ok set
      | none => .error .unknownName
    else match Unicode.category? name, Unicode.script? name with
      | some set, _ => .ok set
      | none, some code => .ok (Unicode.scriptSet code)
      | none, none => .error (if vacantNames.contains name then .unknownValue else .unknownName)
  | .valued name value _ =>
    match valuedProperty? (normalizeName name) with
    | some set? =>
      match set? (normalizeName value) with
      | some set => .ok set
      | none => .error .unknownValue
    | none =>
      .error (if isPropertyName (normalizeName name) then .unknownValue else .unknownName)

/-- Whether a query asks for the characters without the property. -/
def PropertyQuery.differs : PropertyQuery → Bool
  | .named _ => false
  | .valued _ _ differs => differs

end ResponseCheck.Pattern
