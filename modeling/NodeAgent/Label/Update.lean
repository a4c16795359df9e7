import NodeAgent.Dialogue
import NodeAgent.Error.Agent
import NodeAgent.Label.Set

/-!
# Changing labels in place

The labels of a registered node are changed by taking away what the coordinator holds and giving what
the node wants.  The label that the coordinator manages by itself is never taken away or given.  The
first failure ends the change, which then stays half done.

## Main definitions

* `LabelCall`, `LabelReply`: what is asked of the coordinator, and its answer.
* `desiredLabels`: what the node wants.
* `softUpdate`: the change as a dialogue.
-/

namespace NodeAgent

/-- **What is asked of the coordinator** about the labels of a node. -/
inductive LabelCall
  /-- Which labels the node has. -/
  | get
  /-- To take labels away. -/
  | remove (labels : LabelSet)
  /-- To give labels. -/
  | add (labels : LabelSet)
deriving DecidableEq

/-- **The answer**: the labels of the node to the question for them; to the others any set. -/
abbrev LabelReply := Except ProtocolError LabelSet

/-- A dialogue about the labels of a node. -/
abbrev LabelDialogue := Dialogue LabelCall LabelReply (Except LabelUpdateError Unit)

/-- **What the node wants**: the labels that are set and those in the label file. -/
def desiredLabels (static : LabelSet) (contents : String) : LabelSet :=
  (static.union (.parse contents)).withoutManaged

/-- How a dialogue goes on when nothing is wanted of an answer but success. -/
def LabelDialogue.afterSuccess (next : LabelDialogue) : LabelReply → LabelDialogue
  | .ok _ => next
  | .error cause => .done (.error (.coordinator cause))

/-- Gives the wanted labels, if there are any. -/
def giveLabels (desired : LabelSet) : LabelDialogue :=
  if desired.isEmpty then .done (.ok ())
  else .ask (.add desired) (LabelDialogue.afterSuccess (.done (.ok ())))

/-- Takes away the present labels, if there are any, and gives the wanted ones. -/
def swapLabels (present desired : LabelSet) : LabelDialogue :=
  if present.isEmpty then giveLabels desired
  else .ask (.remove present) (LabelDialogue.afterSuccess (giveLabels desired))

/-- **Changes the labels of a node** to those that are set and those in the label file. -/
def softUpdate (static : LabelSet) (contents : String) : LabelDialogue :=
  .ask .get fun
    | .ok held => swapLabels held.withoutManaged (desiredLabels static contents)
    | .error cause => .done (.error (.coordinator cause))

end NodeAgent
