import NodeAgent.Toml.Scalar

/-!
# TOML documents

A document is a list of lines: entries, headers that say which table the entries behind them belong to,
and comments.  Keys with dots make tables of their own.  A table has one origin, and the origin decides
what may be added to it later.

## Main definitions

* `TableOrigin`, `TomlItem`: the tables of a document while it is read.
* `addEntry`, `openTable`, `openRow`: what entries and headers do to the tables.
* `parseToml`: reading a document.
-/

namespace NodeAgent.Toml

open Text Reader

/-! ## Tables -/

/-- **How a table came to be.** -/
inductive TableOrigin
  /-- It has a header. -/
  | headed
  /-- The header of another table needs it. -/
  | implied
  /-- Keys with dots make it. -/
  | dotted
deriving DecidableEq, Repr

/-- **An item of a table** of a document. -/
inductive TomlItem
  | value (d : Datum)
  | table (origin : TableOrigin) (entries : List (String × TomlItem))
  /-- A list of tables, each with a header of its own. -/
  | rows (tables : List (List (String × TomlItem)))
deriving Inhabited

/-- The entries of a table of a document. -/
abbrev Entries := List (String × TomlItem)

/-- Puts an item into a table, in place of one with the same key. -/
def putItem (key : String) (item : TomlItem) (entries : Entries) : Entries :=
  if (entries.lookup key).isSome then
    entries.map fun (k, v) => if k = key then (k, item) else (k, v)
  else entries ++ [(key, item)]

/-- **Adds an entry to a table.**  All keys of the path but the last one make dotted tables or lead
through tables that nobody has given a header; the last one has to lead to a dotted table. -/
def addEntry (key : String) (d : Datum) : List String → Entries → Except TomlError Entries
  | [], entries =>
    if (entries.lookup key).isSome then .error .repeatedKey
    else .ok (entries ++ [(key, .value d)])
  | step :: path, entries =>
    match entries.lookup step with
    | none => do
      let inner ← addEntry key d path []
      return entries ++ [(step, .table .dotted inner)]
    | some (.table .dotted inner) => do
      return putItem step (.table .dotted (← addEntry key d path inner)) entries
    | some (.table .implied inner) => do
      -- A table that only headers have led to may grow further down, but not here.
      if path.isEmpty then throw .repeatedKey
      return putItem step (.table .implied (← addEntry key d path inner)) entries
    | some (.rows tables) => do
      if path.isEmpty then throw .repeatedKey
      let inner ← addEntry key d path (tables.getLast?.getD [])
      return putItem step (.rows (tables.dropLast ++ [inner])) entries
    | some (.table .headed _) => .error .repeatedKey
    | some (.value _) => .error .repeatedKey

/-- Changes the table that a path of headers leads to: through tables, and through the last table of
each list. -/
def atTable (change : Entries → Except TomlError Entries) :
    List String → Entries → Except TomlError Entries
  | [], entries => change entries
  | step :: path, entries =>
    match entries.lookup step with
    | none => do return entries ++ [(step, .table .implied (← atTable change path []))]
    | some (.table origin inner) => do
      return putItem step (.table origin (← atTable change path inner)) entries
    | some (.rows tables) => do
      let inner ← atTable change path (tables.getLast?.getD [])
      return putItem step (.rows (tables.dropLast ++ [inner])) entries
    | some (.value _) => .error .repeatedKey

/-- **Gives a table its header.**  It must not have one, nor be made by dotted keys. -/
def openTable (key : String) (entries : Entries) : Except TomlError Entries :=
  match entries.lookup key with
  | none => .ok (entries ++ [(key, .table .headed [])])
  | some (.table .implied inner) => .ok (putItem key (.table .headed inner) entries)
  | some _ => .error .repeatedKey

/-- **Adds a table to a list of tables.** -/
def openRow (key : String) (entries : Entries) : Except TomlError Entries :=
  match entries.lookup key with
  | none => .ok (entries ++ [(key, .rows [[]])])
  | some (.rows tables) => .ok (putItem key (.rows (tables ++ [[]])) entries)
  | some _ => .error .repeatedKey

mutual

/-- The data of an item. -/
def TomlItem.datum : TomlItem → Datum
  | .value d => d
  | .table _ entries => .table (entriesData entries)
  | .rows tables => .list (rowsData tables)

/-- The data of entries. -/
def entriesData : List (String × TomlItem) → List (String × Datum)
  | [] => []
  | (key, item) :: rest => (key, item.datum) :: entriesData rest

/-- The data of the tables of a list. -/
def rowsData : List (List (String × TomlItem)) → List Datum
  | [] => []
  | entries :: rest => .table (entriesData entries) :: rowsData rest

end

/-! ## Keys and values -/

/-- The number of levels that values and keys may have, which does not belong to it. -/
def depthLimit : Nat := 80

/-- Whether a character may stand in a key without quotes. -/
def isKeyChar (c : Char) : Bool :=
  c.isAlphanum || c == '-' || c == '_'

/-- Reads a key without dots. -/
def simpleKey : TomlReader String := do
  if ← charComesNext (· == '"') then shortText '"'
  else if ← charComesNext (· == '\'') then shortText '\''
  else
    let cs ← takeWhile isKeyChar
    if cs.isEmpty then throw .badSyntax
    return String.ofList cs

/-- Reads the parts of a key, with dots and space between them. -/
def keyParts : Nat → TomlReader (List String)
  | 0 => throw .badSyntax
  | fuel + 1 => do
    spaces
    let part ← simpleKey
    spaces
    if ← takeText? "." then return part :: (← keyParts fuel)
    else return [part]

/-- Reads a key: its path and its last part. -/
def key : TomlReader (List String × String) := do
  let parts ← keyParts ((← remaining) + 1)
  if depthLimit ≤ parts.length then throw .tooDeep
  return (parts.dropLast, parts.getLast?.getD "")

/-- Reads a comment if one comes next. -/
def comment? : TomlReader Unit := do
  if ← takeText? "#" then
    let _ ← takeWhile isPlain

/-- Reads space, line ends and comments. -/
def gap : Nat → TomlReader Unit
  | 0 => pure ()
  | fuel + 1 => do
    spaces
    comment?
    if ← lineEnd? then gap fuel

/-- Reads the items of a list behind its bracket, and its closing bracket. -/
def listItems (item : TomlReader Datum) : Nat → TomlReader (List Datum)
  | 0 => throw .badSyntax
  | fuel + 1 => do
    gap ((← remaining) + 1)
    if ← takeText? "]" then return []
    let d ← item
    gap ((← remaining) + 1)
    if ← takeText? "," then return d :: (← listItems item fuel)
    takeText "]" .badSyntax
    return [d]

/-- Reads an entry of a table on one line. -/
def lineEntry (item : TomlReader Datum) (entries : Entries) : TomlReader Entries := do
  let (path, last) ← key
  takeText "=" .badSyntax
  spaces
  let d ← item
  spaces
  (addEntry last d path entries : Except TomlError Entries)

/-- Reads the entries of a table on one line, and its closing brace. -/
def lineEntries (item : TomlReader Datum) : Nat → Entries → TomlReader Entries
  | 0, _ => throw .badSyntax
  | fuel + 1, entries => do
    let entries ← lineEntry item entries
    if ← takeText? "," then lineEntries item fuel entries
    else
      takeText "\x7d" .badSyntax
      return entries

/-- Reads a table on one line behind its brace. -/
def lineTable (item : TomlReader Datum) : TomlReader Datum := do
  spaces
  if ← takeText? "\x7d" then return .table []
  return .table (entriesData (← lineEntries item ((← remaining) + 1) []))

/-- **Reads a value** with at most so many levels of lists and tables. -/
def value : Nat → TomlReader Datum
  | 0 => throw .tooDeep
  | depth + 1 => do
    -- The first character tells what kind of value it is.
    if ← charComesNext (· == '"') then return .text (← quotedText '"')
    else if ← charComesNext (· == '\'') then return .text (← quotedText '\'')
    else if ← charComesNext fun c => c == '[' || c == '\x7b' then
      if depth = 0 then throw .tooDeep
      if ← takeText? "[" then return .list (← listItems (value depth) ((← remaining) + 1))
      takeText "\x7b" .badSyntax
      lineTable (value depth)
    else if ← charComesNext fun c => c.isDigit || c == '+' || c == '-' then number
    else if ← takeText? "true" then return .bool true
    else if ← takeText? "false" then return .bool false
    else if ← specialNumber? then return .fraction
    else throw .badSyntax

/-! ## Documents -/

/-- Reads the end of a line, which may hold a comment. -/
def lineRest : TomlReader Unit := do
  spaces
  comment?
  if !(← lineEnd?) && (← remaining) ≠ 0 then throw .badSyntax

/-- **A document that is being read**: its tables, and the one to which entries belong. -/
structure Draft where
  root : Entries := []
  current : List String := []

/-- Reads a header. -/
def header (draft : Draft) : TomlReader Draft := do
  let isRow ← takeText? "[["
  if !isRow then takeText "[" .badSyntax
  let (path, last) ← key
  takeText (if isRow then "]]" else "]") .badSyntax
  lineRest
  let root ← (atTable (if isRow then openRow last else openTable last) path draft.root :
    Except TomlError Entries)
  return ⟨root, path ++ [last]⟩

/-- Reads an entry on a line of its own. -/
def entry (draft : Draft) : TomlReader Draft := do
  let (path, last) ← key
  takeText "=" .badSyntax
  spaces
  let d ← value depthLimit
  lineRest
  let root ← (atTable (addEntry last d path) draft.current draft.root : Except TomlError Entries)
  return { draft with root := root }

/-- Reads lines up to the end of the document. -/
def documentLines : Nat → Draft → TomlReader Draft
  | 0, draft => return draft
  | fuel + 1, draft => do
    spaces
    if (← remaining) = 0 then return draft
    else if ← charComesNext (· == '[') then documentLines fuel (← header draft)
    else if ← charComesNext fun c => c == '#' || c == '\n' || c == '\r' then
      lineRest
      documentLines fuel draft
    else documentLines fuel (← entry draft)

/-- **The data of a document**; a byte order mark in front does not count. -/
def parseToml (s : String) : Except TomlError Datum :=
  let cs :=
    match s.toList with
    | '\uFEFF' :: rest => rest
    | cs => cs
  ((documentLines (cs.length + 1) {}).run cs).map fun (draft, _) => .table (entriesData draft.root)

end NodeAgent.Toml
