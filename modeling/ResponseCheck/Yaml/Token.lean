import ResponseCheck.Yaml.Error

/-! Indentation becomes visible in the tokens of a YAML text: block collections have a start and an
end. -/

namespace ResponseCheck.Yaml

/-- A tag as it is written: a handle, and the text after it. -/
structure TagName where
  handle : String
  suffix : String
deriving DecidableEq, Repr

/-- The kinds of tokens. -/
inductive TokenKind where
  | streamEnd
  | version (major minor : Nat)
  | tagHandle (handle expansion : String)
  | documentStart
  | documentEnd
  | blockSequenceStart
  | blockMappingStart
  | blockEnd
  | flowSequenceStart
  | flowSequenceEnd
  | flowMappingStart
  | flowMappingEnd
  | blockEntry
  | flowEntry
  | key
  | value
  | alias (name : String)
  | anchor (name : String)
  | tag (name : TagName)
  | scalar (plain : Bool) (text : String)
deriving DecidableEq, Repr

/-- A token and the places around it. -/
structure Token where
  kind : TokenKind
  start : Mark
  stop : Mark
deriving DecidableEq, Repr

end ResponseCheck.Yaml
