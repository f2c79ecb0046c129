import ResponseCheck.Number.Shortest
import ResponseCheck.Schema.Error
import ResponseCheck.Settings.Decode
import ResponseCheck.Toml.Document
import ResponseCheck.Toml.Excerpt

/-!
# Settings files

A settings file is a TOML document. An error says what is wrong, and shows where.
-/

namespace ResponseCheck.Settings

open Toml (Key Scalar Span Value)

/-- Why a document has no settings. -/
inductive FileError where
  | malformed (error : Toml.SyntaxError)
  /-- Some part does not have the shape that is wanted. -/
  | misfit (error : Schema.Error) (span : Span)
deriving Repr

/-- The message of an error, without its place. -/
def FileError.reason : FileError → String
  | .malformed error => error.message
  | .misfit error _ => error.message

/-- The part of the document that an error is about. -/
def FileError.span : FileError → Span
  | .malformed error => ⟨error.left, error.left - 1⟩
  | .misfit _ span => span

/-- The message of an error in a document. -/
def FileError.message (text : String) (e : FileError) : String :=
  Toml.excerpt text.toList e.span e.reason

/-! ### Values -/

/-- The digits of a number, always positional. -/
def floatText : Extended → String
  | .finite x =>
    let digits := x.shortest.normalize.positional
    String.ofList (if x.negative then '-' :: digits else digits)
  | .infinity true => "-inf"
  | .infinity false => "inf"
  | .undefined => "NaN"

/-- What a value is found to be. A moment counts as a table. -/
def found : Value → Schema.Found
  | .scalar _ (.string text) => .text text
  | .scalar _ (.integer n) => .integer n
  | .scalar _ (.float x) => .float (floatText x)
  | .scalar _ (.bool b) => .bool b
  | .scalar _ (.moment _) => .map
  | .array .. => .sequence
  | .table .. => .map
  | .tables _ => .sequence

/-- The error that the value of a key has a wrong type. -/
def misfit {α : Type} (key : Key) (value : Value) (expected : String) : Except FileError α :=
  .error (.misfit (.wrongType (found value) expected) (value.span?.getD key.span))

/-- Reads a text. -/
def text (key : Key) : Value → Except FileError String
  | .scalar _ (.string text) => .ok text
  | value => misfit key value "a string"

/-- Reads a truth value. -/
def truth (key : Key) : Value → Except FileError Bool
  | .scalar _ (.bool b) => .ok b
  | value => misfit key value "a boolean"

/-- Reads a natural number. -/
def natural (key : Key) : Value → Except FileError Nat
  | .scalar _ (.integer (.ofNat n)) => .ok n
  | .scalar span (.integer n) => .error (.misfit (.wrongValue (.integer n) "u64") span)
  | value => misfit key value "u64"

/-- The key of the only entry of a moment that is read as a table. -/
def momentKey : String := "$__toml_private_datetime"

/-- Reads a table of texts. -/
def textTable (key : Key) : Value → Except FileError Http.Headers
  | .table _ entries => do
    return .ofList (← entries.mapM fun (key, value) => do return (key.name, ← text key value))
  | .scalar _ (.moment text) => .ok (.ofList [(momentKey, text)])
  | value => misfit key value "a map"

/-! ### Documents -/

/-- Reads one entry of a document onto settings. -/
def readEntry (settings : Settings) (entry : Key × Value) : Except FileError Settings := do
  let (key, value) := entry
  match key.name with
  | "base_url" => return { settings with baseUrl := some (← text key value) }
  | "headers" => return { settings with headers := ← textTable key value }
  | "proxy" => return { settings with proxy := some (← text key value) }
  | "follow_redirects" => return { settings with followRedirects := ← truth key value }
  | "timeout_secs" => return { settings with timeoutSeconds := some (← natural key value) }
  | name => .error (.misfit (.unknownField name (schema.fields.map (·.name))) key.span)

/-- The settings of a document; what is left out stays as it is by default. -/
def ofToml (text : String) : Except FileError Settings := do
  let entries ← (Toml.read text.toList).mapError .malformed
  entries.foldlM readEntry {}

end ResponseCheck.Settings
