import NodeAgent.Files.Tree
import NodeAgent.Text.Number
import NodeAgent.Text.Split

/-!
# Pid files

A pid file names the process that runs as a node.  It is claimed at the start and given up at the end.
A claim fails while the file names another process that is running; whatever else stands in the file is
taken over.

## Main definitions

* `Processes`: which processes and process groups there are, as far as a probe can tell.
* `Processes.isAlive`: whether a number names something that can be probed.
* `readPidFile`, `claimPidFile`, `dropPidFile`: the life of a pid file.
-/

namespace NodeAgent

open Text

/-- **The processes that a probe can reach.** -/
structure Processes where
  /-- The numbers of the running processes. -/
  running : List Nat
  /-- The numbers of the process groups that have members. -/
  groups : List Nat := []
  /-- The number of the process that asks. -/
  own : UInt32
deriving DecidableEq, Repr, Inhabited

namespace Processes

/-- Whether a probe of a number succeeds.  A positive number names a process, zero the group of the
process that asks, minus one every other process but the first, and a smaller number a group. -/
def answers (p : Processes) (target : Int) : Bool :=
  if target > 0 then p.running.contains target.toNat
  else if target = 0 then true
  else if target = -1 then p.running.any fun id => id ≠ 1 ∧ id ≠ p.own.toNat
  else p.groups.contains (-target).toNat

/-- **Whether a number names something alive.**  The probe takes it as a signed number of 32 bits. -/
def isAlive (p : Processes) (pid : UInt32) : Bool :=
  p.answers (Int.bmod pid.toNat UInt32.size)

end Processes

/-- The number that stands in the text of a pid file. -/
def readPid (text : String) : Except SystemError UInt32 :=
  (readUInt32 (trim text)).mapError fun e => ⟨.invalidData, .agent e.message⟩

/-- **The number in a pid file**; `none` if there is no such file. -/
def readPidFile (t : FileTree) (path : String) : Except SystemError (Option UInt32) :=
  match t.readText path with
  | .ok text => (readPid text).map some
  | .error e => if e.kind = .notFound then .ok none else .error e

/-- The failure of a claim on the file of a running process. -/
def ownedBy (path : String) (pid : UInt32) : SystemError :=
  ⟨.alreadyExists,
    .agent ("PID file " ++ path ++ " belongs to running process " ++ toString pid.toNat)⟩

/-- Writes a number into a pid file, whose directory is made if need be. -/
def writePidFile (path : String) (pid : UInt32) : FileAction Unit := do
  if let some parent := parentPath? path then makeDirectories parent
  writeFile path (encodeUtf8 (toString pid.toNat ++ "\n"))

/-- Whether a claim has to be refused, and why. -/
def claimRefusal? (processes : Processes) (path : String) (pid : UInt32) :
    Except SystemError (Option UInt32) → Option SystemError
  | .ok none => none
  | .ok (some named) =>
    if named ≠ pid ∧ processes.isAlive named then some (ownedBy path named) else none
  | .error e => if e.kind = .invalidData then none else some e

/-- **Claims a pid file** for a process. -/
def claimPidFile (processes : Processes) (path : String) (pid : UInt32) : FileAction Unit := do
  let t ← get
  match claimRefusal? processes path pid (readPidFile t path) with
  | some refusal => throw refusal
  | none => writePidFile path pid

/-- **Gives up a pid file.**  It is gone afterwards if it can be removed at all. -/
def dropPidFile (path : String) (t : FileTree) : FileTree :=
  ((removeFile path).run.run t).2

/-- Gives up a pid file, if one is held. -/
def releasePidFile (held : Option String) (t : FileTree) : FileTree :=
  held.elim t (dropPidFile · t)

end NodeAgent
