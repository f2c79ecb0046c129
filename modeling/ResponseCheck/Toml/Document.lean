import ResponseCheck.Toml.Scalar

/-!
# TOML documents

A document is read line by line: a header opens a table, and the lines after it put values into that
table. A table is opened once; tables on the way to it may be opened later. A key with dots makes
tables that only other such keys extend, and a table in braces is never extended.
-/

namespace ResponseCheck.Toml

/-- The entries of a table in order. -/
abbrev Entries := List (Key × Value)

/-! ### Keys -/

/-- The characters of a key without quotes. -/
def isBare (c : Char) : Bool := c.isAlphanum || c == '-' || c == '_'

/-- Whether a key starts here. -/
def startsKey : List Char → Bool
  | c :: _ => isBare c || c == '"' || c == '\''
  | [] => false

/-- Reads one part of a key. -/
def simpleKey : Step Key := fun s => do
  let quoted := s.head? == some '"' || s.head? == some '\''
  let (name, rest) ←
    if quoted then shortString s
    else if startsKey s then .ok (s.takeWhile isBare, s.dropWhile isBare)
    else fail [] s
  return (⟨String.ofList name, spanOf s rest⟩, rest)

/-- Reads the parts of a key, with dots between them. The fuel bounds their number. -/
def keyParts : (fuel : Nat) → Step (List Key)
  | 0, s => fail [] s
  | fuel + 1, s => do
    let (first, rest) ← simpleKey (skipBlanks s)
    match skipBlanks rest with
    | '.' :: more =>
      if startsKey (skipBlanks more) then
        let (keys, rest) ← keyParts fuel more
        return (first :: keys, rest)
      else return ([first], '.' :: more)
    | rest => return ([first], rest)

/-- The number of levels that keys and values may not reach. -/
def depthLimit : Nat := 80

/-- Reads a key: the tables on the way, and the name in the last of them. -/
def key : Step (List Key × Key) := fun s => do
  let (keys, rest) ← Step.within .key (keyParts (s.length + 1)) s
  match keys.getLast? with
  | none => fail [] s
  | some last =>
    if depthLimit ≤ keys.length then refuse .nestingTooDeep s
    else return ((keys.dropLast, last), rest)

/-! ### Tables -/

/-- The value at a name. -/
def lookup? (name : String) (entries : Entries) : Option Value :=
  (entries.find? (·.1.name == name)).map (·.2)

/-- Puts a value at a key, in the place of the value that is there, or else at the end. -/
def put (key : Key) (value : Value) : Entries → Entries
  | [] => [(key, value)]
  | entry :: entries =>
    if entry.1.name == key.name then (entry.1, value) :: entries else entry :: put key value entries

/-- The name of a type of values in messages. -/
def Value.typeName : Value → String
  | .scalar _ (.string _) => "string"
  | .scalar _ (.integer _) => "integer"
  | .scalar _ (.float _) => "float"
  | .scalar _ (.bool _) => "boolean"
  | .scalar _ (.moment _) => "datetime"
  | .array .. => "array"
  | .table (.inline _) _ => "inline table"
  | .table .. => "table"
  | .tables _ => "array of tables"

/-- The names of keys. -/
def names (keys : List Key) : List String := keys.map (·.name)

/-- Puts a value at a new key of a table under tables that keys with dots make. The table itself is
`openToKeys` if it is the one that is being written, or was made by such a key. -/
def insert (table : Option (List String)) (value : Value) (openToKeys : Bool) (above : List Key) :
    List Key → Key → Entries → Except Cause Entries
  | [], key, entries =>
    if !openToKeys then .error (.duplicateKey key.name none)
    else if (lookup? key.name entries).isSome then .error (.duplicateKey key.name table)
    else .ok (entries ++ [(key, value)])
  | step :: steps, key, entries =>
    let above := above ++ [step]
    match lookup? step.name entries with
    | none => do
      return put step (.table .dotted (← insert table value true above steps key [])) entries
    | some (.table .dotted inner) => do
      return put step (.table .dotted (← insert table value true above steps key inner)) entries
    | some (.table .implied inner) => do
      return put step (.table .implied (← insert table value false above steps key inner)) entries
    | some (.table (.header _) _) => .error (.duplicateKey step.name none)
    | some (.tables ((span, last) :: others)) => do
      let last ← insert table value false above steps key last
      return put step (.tables ((span, last) :: others)) entries
    | some other => .error (.notTable (names above) other.typeName)

/-- Changes the table to which keys of a header lead. -/
def under {α : Type} (change : Entries → Except Cause (α × Entries)) (above : List Key) :
    List Key → Entries → Except Cause (α × Entries)
  | [], entries => change entries
  | step :: steps, entries =>
    let above := above ++ [step]
    match lookup? step.name entries with
    | none => do
      let (a, inner) ← under change above steps []
      return (a, put step (.table .implied inner) entries)
    -- A header below an array of tables leads into the table that was added last.
    | some (.tables ((span, last) :: others)) => do
      let (a, last) ← under change above steps last
      return (a, put step (.tables ((span, last) :: others)) entries)
    | some (.table (.inline span) inner) =>
      .error (.notTable (names above) (Value.table (.inline span) inner).typeName)
    | some (.table origin inner) => do
      let (a, inner) ← under change above steps inner
      return (a, put step (.table origin inner) entries)
    | some other => .error (.notTable (names above) other.typeName)

/-! ### Values -/

/-- Whether a value starts here. -/
def startsValue : List Char → Bool
  | c :: _ => c.isDigit || ['"', '\'', '[', '\x7b', '+', '-', 't', 'f', 'i', 'n'].contains c
  | [] => false

/-- What may follow the last part of a key. -/
def separators : List String := ["`.`", "`=`"]

mutual

/-- Reads a value. The fuel bounds its length, and `depth` is the number of arrays and tables
around it. -/
def valueAt : (fuel depth : Nat) → Step Value
  | 0, _, s => fail [] s
  | fuel + 1, depth, s => do
    match s with
    | '[' :: rest =>
      if depthLimit ≤ depth + 1 then refuse .nestingTooDeep s
      let (found, rest) ← items fuel (depth + 1) rest
      let ((), rest) ← Step.within .array (expect ']' ["`]`"]) rest
      return (.array (spanOf s rest) found, rest)
    | '\x7b' :: rest =>
      if depthLimit ≤ depth + 1 then refuse .nestingTooDeep s
      let (entries, after) ← pairs fuel (depth + 1) [] rest
      let ((), rest) ← Step.within .inlineTable (expect '\x7d' ["`\x7d`"]) after
      return (.table (.inline (spanOf s rest)) entries, rest)
    | s =>
      let (found, rest) ← scalar s
      return (.scalar (spanOf s rest) found, rest)

/-- Reads the items of an array, with commas between them and perhaps after the last one. -/
def items : (fuel depth : Nat) → Step (List Value)
  | 0, _, s => fail [] s
  | fuel + 1, depth, s => do
    let ((), s) ← skipLines (s.length + 1) s
    if startsValue s then
      let (item, s) ← valueAt fuel depth s
      let ((), s) ← skipLines (s.length + 1) s
      match s with
      | ',' :: rest =>
        let (more, rest) ← items fuel depth rest
        return (item :: more, rest)
      | rest => return ([item], rest)
    else return ([], s)

/-- Reads the entries of a table in braces onto entries, with commas between them. -/
def pairs : (fuel depth : Nat) → Entries → Step Entries
  | 0, _, _, s => fail [] s
  | fuel + 1, depth, entries, s => do
    let s := skipBlanks s
    if startsKey s then
      let ((path, last), rest) ← key s
      let ((), rest) ← expect '=' separators rest
      let (found, rest) ← valueAt fuel depth (skipBlanks rest)
      match insert none found true [] path last entries with
      | .error cause => refuse cause s
      | .ok entries =>
        let rest := skipBlanks rest
        match rest with
        | ',' :: more =>
          if startsKey (skipBlanks more) then pairs fuel depth entries more
          else return (entries, rest)
        | rest => return (entries, rest)
    else return (entries, s)

end

/-- Reads a value that stands alone. -/
def value (s : List Char) : Except SyntaxError (Value × List Char) := valueAt (s.length + 1) 0 s

/-! ### Lines -/

/-- A header: the tables on the way, the name of its table, and whether it adds a table to an array
of them. -/
structure Header where
  parents : List Key
  key : Key
  array : Bool
  span : Span
deriving Repr

/-- A document in the making: the tables that are complete, the header of the table that is being
written, and the entries of that table. -/
structure Draft where
  root : Entries := []
  header : Option Header := none
  entries : Entries := []

namespace Draft

/-- The document with the table that was being written. -/
def close (draft : Draft) : Except Cause Entries :=
  match draft.header with
  | none => .ok draft.entries
  | some header => do
    let add (parent : Entries) : Except Cause (Unit × Entries) :=
      if header.array then
        let others := match lookup? header.key.name parent with
          | some (.tables items) => items
          | _ => []
        .ok ((), put header.key (.tables ((header.span, draft.entries) :: others)) parent)
      else .ok ((), put header.key (.table (.header header.span) draft.entries) parent)
    return (← under add [] header.parents draft.root).2

/-- The entries with which the table of a header starts, and its parent without it. A table starts
with what is in it if it was on the way to other tables. -/
def start (header : Header) (parent : Entries) : Except Cause (Entries × Entries) :=
  let duplicate := .error (.duplicateKey header.key.name (some (names header.parents)))
  if header.array then
    match lookup? header.key.name parent with
    | none => .ok ([], put header.key (.tables []) parent)
    | some (.tables _) => .ok ([], parent)
    | some _ => duplicate
  else
    match lookup? header.key.name parent with
    | none => .ok ([], parent)
    | some (.table .implied inner) => .ok (inner, parent.filter (·.1.name != header.key.name))
    | some _ => duplicate

/-- Opens the table of a header. -/
def openTable (draft : Draft) (header : Header) : Except Cause Draft := do
  let root ← draft.close
  let (entries, root) ← under (start header) [] header.parents root
  return { root, header := some header, entries }

/-- Puts a value into the table that is being written, which now reaches to the end of the value. -/
def add (draft : Draft) (path : List Key) (key : Key) (value : Value) : Except Cause Draft := do
  let table := draft.header.toList.flatMap fun header => names (header.parents ++ [header.key])
  let entries ← insert (some table) value true [] path key draft.entries
  let header := draft.header.map fun header =>
    match value.span? with
    | some span => { header with span := { header.span with stop := span.stop } }
    | none => header
  return { draft with header, entries }

end Draft

/-- Reads a header and the rest of its line. -/
def headerLine (draft : Draft) : Step Draft := .within .header fun s => do
  let array := ['[', '['].isPrefixOf s
  if s.length < 2 then fail [] s
  let closing := if array then "]]" else "]"
  let ((parents, key), rest) ← key (s.drop closing.length)
  if !closing.toList.isPrefixOf rest then fail ["`.`", s!"`{closing}`"] rest
  let rest := rest.drop closing.length
  let ((), after) ← lineEnd rest
  match draft.openTable { parents, key, array, span := spanOf s rest } with
  | .ok draft => return (draft, after)
  | .error cause => refuse cause s

/-- Reads a key, its value, and the rest of its line. -/
def keyLine (draft : Draft) : Step Draft := fun s => do
  let ((path, last), rest) ← key s
  let ((), rest) ← expect '=' separators rest
  let (found, rest) ← value (skipBlanks rest)
  let ((), after) ← lineEnd rest
  match draft.add path last found with
  | .ok draft => return (draft, after)
  | .error cause => refuse cause s

/-- Reads the lines of a document. The fuel bounds their number. -/
def lines : (fuel : Nat) → Draft → List Char → Except SyntaxError Draft
  | 0, _, s => fail [] s
  | fuel + 1, draft, s => do
    let s := skipBlanks s
    match s with
    | [] => return draft
    | '#' :: _ =>
      match skipComment s with
      | [] => return draft
      | rest =>
        match newline? rest with
        | some rest => lines fuel draft rest
        | none => fail [] rest
    | '[' :: _ =>
      let (draft, rest) ← headerLine draft s
      lines fuel draft rest
    | c :: _ =>
      if c == '\n' || c == '\r' then
        match newline? s with
        | some rest => lines fuel draft rest
        | none => fail [] s
      else
        let (draft, rest) ← keyLine draft s
        lines fuel draft rest

/-- The document of a text, which may start with a byte order mark. -/
def read (text : List Char) : Except SyntaxError Entries := do
  let s := match text with
    | '\uFEFF' :: rest => rest
    | s => s
  let draft ← lines (s.length + 1) {} s
  match draft.close with
  | .ok entries => return entries
  | .error cause => refuse cause []

end ResponseCheck.Toml
