import ResponseCheck.Text.Blank

/-! The format of a file is told by the extension of its name, in any case. -/

namespace ResponseCheck.Document

/-- The formats of documents. -/
inductive Format where
  | json | yaml
deriving DecidableEq, Repr

/-- The last part of a path that counts: empty parts never do, and a dot only as the whole path. -/
def lastPart? (path : String) : Option (List Char) :=
  (Text.splitOn '/' path.toList).filter (fun part => !part.isEmpty && part != ['.']) |>.getLast?

/-- The name of the file at a path; a path that ends with two dots names no file. -/
def fileName? (path : String) : Option (List Char) :=
  (lastPart? path).filter (· != ['.', '.'])

/-- What follows the last dot of a name. A dot at the start does not count. -/
def extensionOf? (name : List Char) : Option (List Char) :=
  let extension := (name.reverse.takeWhile (· != '.')).reverse
  if extension.length + 1 < name.length then some extension else none

/-- The extension of the file at a path. -/
def extension? (path : String) : Option (List Char) := (fileName? path).bind extensionOf?

/-- The format of the file at a path. -/
def Format.ofPath? (path : String) : Option Format :=
  match (extension? path).map fun extension => Text.asciiLower (String.ofList extension) with
  | some "json" => some .json
  | some "yaml" => some .yaml
  | some "yml" => some .yaml
  | _ => none

/-- The message for a path that tells no format. -/
def unsupportedMessage (path : String) : String :=
  s!"unsupported file extension: {path}; use .json, .yaml or .yml"

end ResponseCheck.Document
