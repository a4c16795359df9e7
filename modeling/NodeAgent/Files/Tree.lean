import NodeAgent.Error.System
import NodeAgent.Text.Split
import NodeAgent.Text.Utf8

/-!
# The file tree

A path is a text.  Slashes separate its components; empty components and components `.` mean nothing
where they follow another component.  The agent sees a tree of files and directories and stands at one of
its directories.  A path leads to a place, component by component; every place on the way has to be a
directory.  What may go wrong with an operation is decided by what stands at the place.

## Main definitions

* `pathComponents`: the components that count, with `/` in front if the path is absolute.
* `parentPath?`: the path without its last component.
* `joinPath`: a path taken relative to another one.
* `FileTree`: what stands where.
* `FileTree.locate`: the place that a path leads to.
* `FileTree.readBytes`, `FileTree.readText`, `FileTree.pathExists`: looking at a place.
* `FileAction`: an operation that may change the tree and may fail.
* `writeFile`, `removeFile`, `makeDirectories`: the operations.
-/

namespace NodeAgent

open Text

/-! ## Paths -/

/-- Whether a path starts at the root. -/
def isAbsolutePath (path : String) : Bool :=
  path.startsWith "/"

/-- What stands between the slashes of a path. -/
def pathPieces (path : String) : List String :=
  (splitOnChar '/' path.toList).map String.ofList

/-- **The components of a path.**  A leading `.` of a relative path counts. -/
def pathComponents (path : String) : List String :=
  let pieces := (pathPieces path).filter (· ≠ "")
  if isAbsolutePath path then pieces.filter (· ≠ ".")
  else
    match pieces with
    | [] => []
    | first :: rest => first :: rest.filter (· ≠ ".")

/-- The path with the given components. -/
def pathOf (absolute : Bool) (components : List String) : String :=
  (if absolute then "/" else "") ++ "/".intercalate components

/-- **The path without its last component**; `none` if there is no component to leave out. -/
def parentPath? (path : String) : Option String :=
  match pathComponents path with
  | [] => none
  | components => some (pathOf (isAbsolutePath path) components.dropLast)

/-- **A path relative to a directory**; an absolute one stays as it is. -/
def joinPath (directory path : String) : String :=
  if isAbsolutePath path || directory.isEmpty then path
  else if directory.endsWith "/" then directory ++ path
  else directory ++ "/" ++ path

/-! ## Trees -/

/-- **What stands at a place.** -/
inductive FileEntry
  | file (content : Bytes) (executable : Bool)
  | directory
deriving DecidableEq, Repr, Inhabited

/-- A place, as the names on the way to it from the root. -/
abbrev Place := List String

/-- **A file tree**, and the directory at which relative paths start.  The root is always there. -/
structure FileTree where
  entries : List (Place × FileEntry) := []
  workingDirectory : Place := []
deriving DecidableEq, Repr, Inhabited

/-- An operation on the file tree. -/
abbrev FileAction := ExceptT SystemError (StateM FileTree)

namespace FileTree

/-- **What stands at a place.** -/
def entry? (t : FileTree) (place : Place) : Option FileEntry :=
  if place = [] then some .directory else t.entries.lookup place

/-- Puts something at a place. -/
def put (t : FileTree) (place : Place) (entry : FileEntry) : FileTree :=
  { t with entries := (place, entry) :: t.entries.filter (·.1 ≠ place) }

/-- Takes away what stands at a place. -/
def erase (t : FileTree) (place : Place) : FileTree :=
  { t with entries := t.entries.filter (·.1 ≠ place) }

/-- The directories along a list of names; two dots lead back. -/
def walk (t : FileTree) (place : Place) : List String → Except SystemError Place
  | [] => .ok place
  | ".." :: rest => t.walk place.dropLast rest
  | name :: rest =>
    match t.entry? (place ++ [name]) with
    | none => .error .noSuchFile
    | some (.file ..) => .error .noDirectory
    | some .directory => t.walk (place ++ [name]) rest

/-- **Where a path leads**: to a place in a directory, and whether only a directory will do there. -/
structure Location where
  place : Place
  wantsDirectory : Bool

/-- **The place that a path leads to.**  Nothing need stand there. -/
def locate (t : FileTree) (path : String) : Except SystemError Location :=
  let names := (pathPieces path).filter fun p => p ≠ "" && p ≠ "."
  let start := if isAbsolutePath path then [] else t.workingDirectory
  let wantsDirectory := path.endsWith "/" || path.endsWith "/." || path == "."
  if path.isEmpty then .error .noSuchFile
  else if path.toList.contains '\x00' then .error .nulInName
  else
    match names.getLast? with
    | none => .ok ⟨start, true⟩
    | some ".." => (t.walk start names).map (⟨·, true⟩)
    | some name => (t.walk start names.dropLast).map fun d => ⟨d ++ [name], wantsDirectory⟩

/-- What stands where a path leads. -/
def find (t : FileTree) (path : String) : Except SystemError (Place × FileEntry) := do
  let there ← t.locate path
  match t.entry? there.place with
  | none => .error .noSuchFile
  | some (.file content executable) =>
    if there.wantsDirectory then .error .noDirectory
    else .ok (there.place, .file content executable)
  | some .directory => .ok (there.place, .directory)

/-- Whether something stands where a path leads. -/
def pathExists (t : FileTree) (path : String) : Bool :=
  (t.find path).isOk

/-- **The bytes of a file.** -/
def readBytes (t : FileTree) (path : String) : Except SystemError Bytes := do
  match ← t.find path with
  | (_, .file content _) => .ok content
  | (_, .directory) => .error .directory

/-- **The text of a file.** -/
def readText (t : FileTree) (path : String) : Except SystemError String := do
  match decodeUtf8? (← t.readBytes path) with
  | some text => .ok text
  | none => .error .notText

/-- The one path among all that lead to a place; a path that leads nowhere stays as it is. -/
def canonicalPath (t : FileTree) (path : String) : String :=
  match t.find path with
  | .ok (place, _) => pathOf true place
  | .error _ => path

end FileTree

/-- An operation that only looks at the tree. -/
def FileAction.look {α : Type} (f : FileTree → Except SystemError α) : FileAction α :=
  fun t => (f t, t)

/-- **Writes a file**, which is made if it is not there. -/
def writeFile (path : String) (content : Bytes) : FileAction Unit := do
  let there ← FileAction.look (·.locate path)
  let t ← get
  match t.entry? there.place, there.wantsDirectory with
  | some .directory, _ | none, true => throw .directory
  | some (.file ..), true => throw .noDirectory
  | some (.file _ executable), false => set (t.put there.place (.file content executable))
  | none, false => set (t.put there.place (.file content false))

/-- **Removes a file.** -/
def removeFile (path : String) : FileAction Unit := do
  let found ← FileAction.look (·.find path)
  match found with
  | (_, .directory) => throw .directory
  | (place, .file ..) => modify (·.erase place)

/-- Makes a directory in a directory that is there. -/
def makeDirectory (path : String) : FileAction Unit := do
  let there ← FileAction.look (·.locate path)
  let t ← get
  match t.entry? there.place with
  | some _ => throw .alreadyThere
  | none => set (t.put there.place .directory)

/-- Makes a directory; a failure to do so does not count if there is one. -/
def ensureDirectory (path : String) : FileAction Unit :=
  tryCatch (makeDirectory path) fun failure => do
    match (← get).find path with
    | .ok (_, .directory) => pure ()
    | _ => throw failure

/-- Makes the directory at the first `n` components of a path, and those above it that are not there. -/
def makeDirectoriesTo (absolute : Bool) (components : List String) : Nat → FileAction Unit
  | 0 => pure ()
  | n + 1 =>
    let path := pathOf absolute (components.take (n + 1))
    tryCatch (ensureDirectory path) fun failure =>
      -- Only a missing parent is made; any other failure stays.
      if failure.kind = .notFound then do
        makeDirectoriesTo absolute components n
        ensureDirectory path
      else throw failure

/-- **Makes a directory and those above it** that are not there yet. -/
def makeDirectories (path : String) : FileAction Unit :=
  let components := pathComponents path
  makeDirectoriesTo (isAbsolutePath path) components components.length

end NodeAgent
