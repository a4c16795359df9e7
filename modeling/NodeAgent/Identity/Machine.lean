import NodeAgent.Digest.Sha256
import NodeAgent.Files.Tree
import NodeAgent.Text.Sorted
import NodeAgent.Text.Split

/-!
# The machine

Some defaults come from the machine of the agent and its surroundings.  Two nodes of one name on
different machines, or in different directories of one machine, have to look different to the coordinator.
A short digest of the working directory and of the addresses of the machine tells them apart.  The order
in which addresses are listed does not matter.

## Main definitions

* `Surroundings`: what the agent finds out about its machine.
* `discoveryPort`: the port that variables name.
* `identityText`: what is digested.
* `identityHash`: the digest of a directory and addresses.
* `FileTree.identityHash`: the same for a directory as a path leads to it.
-/

namespace NodeAgent

open Text Digest

/-! ## Surroundings -/

/-- The port that coordinators listen on for broadcasts. -/
def wellKnownPort : UInt16 := 33848

/-- The port that two variables name: the first one that holds a port number counts. -/
def discoveryPort (current legacy : Option String) : UInt16 :=
  let port? (setting : Option String) : Option UInt16 :=
    setting.bind fun value => (readUInt16 (trim value)).toOption
  (port? current <|> port? legacy).getD wellKnownPort

/-- **What the agent finds out about its machine.** -/
structure Surroundings where
  hostname : String
  processors : UInt32
  workingDirectory : String
  discoveryPort : UInt16 := wellKnownPort
deriving DecidableEq, Repr, Inhabited

/-! ## Identity -/

/-- The number of hexadecimal digits of an identity. -/
def identityLength : Nat := 8

/-- **What is digested**: the directory, and each address once, in order, behind a line feed. -/
def identityText (root : String) (addresses : List String) : String :=
  String.join (root :: (sortedSet addresses).map ("\n" ++ ·))

/-- **The identity of a directory on a machine with the given addresses.** -/
def identityHash (root : String) (addresses : List String) : String :=
  String.ofList ((sha256Hex (encodeUtf8 (identityText root addresses))).toList.take identityLength)

/-- The identity of the directory that a path leads to; a path that leads nowhere counts as written. -/
def FileTree.identityHash (t : FileTree) (path : String) (addresses : List String) : String :=
  NodeAgent.identityHash (t.canonicalPath path) addresses

end NodeAgent
