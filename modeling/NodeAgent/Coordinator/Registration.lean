import NodeAgent.Coordinator.Candidate
import NodeAgent.Label.Set

/-!
# What a node is registered as

The agent tells the coordinator everything about a node.  The coordinator answers with a list of
properties, one a line.  A key ends at the first equals sign or colon; a line that starts with `#` or `!`
is a comment.  The first entry `name` is the name under which the node was registered.

## Main definitions

* `Registration`: everything that the coordinator has to know about a node.
* `Registration.withLabelFile`: the registration with the labels of the label file.
* `property?`: the key and value of a line of the answer.
* `announcedName?`: the name in the answer.
-/

namespace NodeAgent

open Text

/-- **What the coordinator has to know about a node.** -/
structure Registration where
  /-- The name that the node asks for; the coordinator may settle on another one. -/
  name : String
  description : Option String := none
  executors : UInt32
  fsRoot : String
  labels : LabelSet
  /-- Where tools are, with increasing names. -/
  toolLocations : List (String × String) := []
  mode : NodeMode := .normal
  /-- The identity of the machine, unless it stays unknown. -/
  hash : Option String := none
  /-- Whether a node of the same name is replaced. -/
  deleteExistingClients : Bool := false
deriving DecidableEq

namespace Registration

/-- The registration with further labels. -/
def addLabels (r : Registration) (labels : LabelSet) : Registration :=
  { r with labels := r.labels.union labels }

/-- **The registration with the labels of the label file**, if its text is known. -/
def withLabelFile (r : Registration) (contents : Option String) : Registration :=
  contents.elim r fun text => r.addLabels (.parse text)

end Registration

/-! ## The announced name -/

/-- **The key and value of a line**; `none` if it is a comment or has no separator. -/
def property? (line : List Char) : Option (List Char × List Char) :=
  let content := trimChars line
  match content with
  | '#' :: _ => none
  | '!' :: _ => none
  | _ => (splitAtFirst (fun c => c == '=' || c == ':') content).map fun (key, value) =>
      (trimChars key, trimChars value)

/-- **The name in an answer**; `none` if the answer announces none, or a blank one. -/
def announcedName? (answer : String) : Option String :=
  let properties := (lines answer.toList).filterMap property?
  match properties.lookup "name".toList with
  | none => none
  | some [] => none
  | some name => some (String.ofList name)

end NodeAgent
