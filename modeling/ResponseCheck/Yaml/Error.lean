/-!
# YAML errors

A syntax error says what is wrong and where, and often what was being read and where that began.
-/

namespace ResponseCheck.Yaml

/-- A place in a text: characters from its start, and the line and column, all from zero. -/
structure Mark where
  index : Nat := 0
  line : Nat := 0
  column : Nat := 0
deriving DecidableEq, Repr

/-- Whether a mark is at the start of the text. -/
def Mark.isStart (mark : Mark) : Bool := mark.line == 0 && mark.column == 0

/-- Whether two marks are at the same line and column. -/
def Mark.sameAs (a b : Mark) : Bool := a.line == b.line && a.column == b.column

/-- The line and column of a mark, counted from one. -/
def Mark.text (mark : Mark) : String := s!"line {mark.line + 1} column {mark.column + 1}"

/-- What is wrong. -/
inductive Problem where
  | badEncoding
  | controlCharacter
  | noToken
  | missingColon
  | blockEntryHere
  | keyHere
  | valueHere
  | unknownDirective
  | directiveEnd
  | directiveName
  | directiveNameEnd
  | versionDigit
  | longVersion
  | missingVersion
  | missingBlank
  | missingBlankOrBreak
  | anchorName
  | tagClose
  | tagMark
  | tagUri
  | uriEscape
  | uriLead
  | uriTail
  | zeroIndentation
  | blockHeaderEnd
  | tabIndentation
  | tabViolation
  | documentIndicator
  | endOfStream
  | unknownEscape
  | hexDigit
  | escapeCode
  | unexpectedColon
  | documentStart
  | duplicateVersion
  | unknownVersion
  | duplicateTag
  | tagHandle
  | nodeContent
  | dashIndicator
  | mappingKey
  | commaOrBracket
  | commaOrBrace
  | unknownAnchor
deriving DecidableEq, Repr

/-- The words for a problem. -/
def Problem.words : Problem → String
  | .badEncoding => "invalid UTF-8 octet sequence"
  | .controlCharacter => "control characters are not allowed"
  | .noToken => "found character that cannot start any token"
  | .missingColon => "could not find expected ':'"
  | .blockEntryHere => "block sequence entries are not allowed in this context"
  | .keyHere => "mapping keys are not allowed in this context"
  | .valueHere => "mapping values are not allowed in this context"
  | .unknownDirective => "found unknown directive name"
  | .directiveEnd => "did not find expected comment or line break"
  | .directiveName => "could not find expected directive name"
  | .directiveNameEnd => "found unexpected non-alphabetical character"
  | .versionDigit => "did not find expected digit or '.' character"
  | .longVersion => "found extremely long version number"
  | .missingVersion => "did not find expected version number"
  | .missingBlank => "did not find expected whitespace"
  | .missingBlankOrBreak => "did not find expected whitespace or line break"
  | .anchorName => "did not find expected alphabetic or numeric character"
  | .tagClose => "did not find the expected '>'"
  | .tagMark => "did not find expected '!'"
  | .tagUri => "did not find expected tag URI"
  | .uriEscape => "did not find URI escaped octet"
  | .uriLead => "found an incorrect leading UTF-8 octet"
  | .uriTail => "found an incorrect trailing UTF-8 octet"
  | .zeroIndentation => "found an indentation indicator equal to 0"
  | .blockHeaderEnd => "did not find expected comment or line break"
  | .tabIndentation => "found a tab character where an indentation space is expected"
  | .tabViolation => "found a tab character that violates indentation"
  | .documentIndicator => "found unexpected document indicator"
  | .endOfStream => "found unexpected end of stream"
  | .unknownEscape => "found unknown escape character"
  | .hexDigit => "did not find expected hexdecimal number"
  | .escapeCode => "found invalid Unicode character escape code"
  | .unexpectedColon => "found unexpected ':'"
  | .documentStart => "did not find expected <document start>"
  | .duplicateVersion => "found duplicate %YAML directive"
  | .unknownVersion => "found incompatible YAML document"
  | .duplicateTag => "found duplicate %TAG directive"
  | .tagHandle => "found undefined tag handle"
  | .nodeContent => "did not find expected node content"
  | .dashIndicator => "did not find expected '-' indicator"
  | .mappingKey => "did not find expected key"
  | .commaOrBracket => "did not find expected ',' or ']'"
  | .commaOrBrace => "did not find expected ',' or '\x7d'"
  | .unknownAnchor => "unknown anchor"

/-- What was being read. -/
inductive Context where
  | token
  | simpleKey
  | directive
  | versionDirective
  | tagDirective
  | tagDirectiveHandle
  | tagDirectiveUri
  | anchor
  | alias
  | tag
  | tagUri
  | blockScalar
  | quotedScalar
  | quotedEscape
  | plainScalar
  | node
  | blockNode
  | flowNode
  | blockCollection
  | blockMapping
  | flowSequence
  | flowMapping
deriving DecidableEq, Repr

/-- The words for a context. -/
def Context.words : Context → String
  | .token => "while scanning for the next token"
  | .simpleKey => "while scanning a simple key"
  | .directive => "while scanning a directive"
  | .versionDirective => "while scanning a %YAML directive"
  | .tagDirective => "while scanning a %TAG directive"
  | .tagDirectiveHandle => "while scanning a tag directive"
  | .tagDirectiveUri => "while parsing a %TAG directive"
  | .anchor => "while scanning an anchor"
  | .alias => "while scanning an alias"
  | .tag => "while scanning a tag"
  | .tagUri => "while parsing a tag"
  | .blockScalar => "while scanning a block scalar"
  | .quotedScalar => "while scanning a quoted scalar"
  | .quotedEscape => "while parsing a quoted scalar"
  | .plainScalar => "while scanning a plain scalar"
  | .node => "while parsing a node"
  | .blockNode => "while parsing a block node"
  | .flowNode => "while parsing a flow node"
  | .blockCollection => "while parsing a block collection"
  | .blockMapping => "while parsing a block mapping"
  | .flowSequence => "while parsing a flow sequence"
  | .flowMapping => "while parsing a flow mapping"

/-- What is wrong and where, and what was being read and where that began. -/
structure SyntaxError where
  problem : Problem
  mark : Mark
  context : Option (Context × Mark) := none
deriving DecidableEq, Repr

/-- The words for a place other than the start. -/
def Mark.suffix (mark : Mark) : String :=
  if !mark.isStart then " at " ++ mark.text
  else if mark.index != 0 then s!" at position {mark.index}"
  else ""

/-- The message of a syntax error. -/
def SyntaxError.message (e : SyntaxError) : String :=
  let context :=
    match e.context with
    | none => ""
    | some (context, mark) =>
      ", " ++ context.words
        ++ (if mark.isStart || mark.sameAs e.mark then "" else " at " ++ mark.text)
  e.problem.words ++ e.mark.suffix ++ context

end ResponseCheck.Yaml
