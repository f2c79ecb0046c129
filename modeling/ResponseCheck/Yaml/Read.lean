import ResponseCheck.Text.Utf8
import ResponseCheck.Yaml.Node.Parser
import ResponseCheck.Yaml.Value.OfNode

/-! A YAML text must be UTF-8 without control characters, and hold one document. -/

namespace ResponseCheck.Yaml

/-- Why bytes are no YAML document. -/
inductive Error where
  | badSyntax (error : SyntaxError)
  | badValue (error : ValueError)
  | manyDocuments
deriving Repr

/-- The message of an error. -/
def Error.message : Error → String
  | .badSyntax error => error.message
  | .badValue error => error.message
  | .manyDocuments =>
    "deserializing from YAML containing more than one document is not supported"

/-- The characters that a text may have. -/
def isAllowed (c : Char) : Bool :=
  let n := c.toNat
  n == 0x09 || n == 0x0A || n == 0x0D || (0x20 ≤ n && n ≤ 0x7E) || n == 0x85
    || (0xA0 ≤ n && n ≤ 0xD7FF) || (0xE000 ≤ n && n ≤ 0xFFFD) || 0x10000 ≤ n

/-- The characters of a text. -/
def decode (bytes : List UInt8) : Except SyntaxError (List Char) :=
  match Utf8.decode bytes with
  | .error error => .error ⟨.badEncoding, { index := error.index }, none⟩
  | .ok text =>
    let chars := text.toList
    let good := chars.takeWhile isAllowed
    if good.length = chars.length then .ok chars
    else .error ⟨.controlCharacter, { index := (Utf8.encode (String.ofList good)).length }, none⟩

/-- The value of the only document in a text; a text without documents has the value null. -/
def read (bytes : List UInt8) : Except Error Value := do
  let document ← (decode bytes >>= parse).mapError .badSyntax
  match document.root with
  | none => return .null
  | some root =>
    let (root, anchors) ← (link root).mapError .badSyntax
    let value ← (Value.ofDocument root anchors).mapError .badValue
    if document.single then return value else throw .manyDocuments

end ResponseCheck.Yaml
