import NodeAgent.Label.Update
import NodeAgent.Text.LowerCase

/-!
# Watching the label file

While the node is connected, its label file is looked at again and again.  The watch remembers the text
that the labels of the node were last made from.  A text that differs from it in more than the case of
letters is applied in place.  When that fails, the labels are half changed, and the watch asks for a
restart of the node.

## Main definitions

* `Watch`: what a watch is doing.
* `Watch.look`: a look at the label file.
* `Watch.hear`: an answer of the coordinator.
-/

namespace NodeAgent

open Text

/-- Whether two texts of the label file mean the same labels to the watch. -/
def sameLabels (a b : String) : Bool :=
  toLower a == toLower b

/-- **What a watch is doing.** -/
inductive Watch
  /-- It waits for the next look.  The labels of the node were made from `baseline`. -/
  | idle (baseline : Option String)
  /-- It changes the labels to those in `contents` and waits for the answer to a call. -/
  | updating (contents : String) (next : LabelReply → LabelDialogue)
  /-- A change failed, and the node has to register again. -/
  | stuck

namespace Watch

/-- Whether the labels of the node were made from a text. -/
def isApplied (baseline : Option String) (contents : String) : Bool :=
  baseline.any (sameLabels · contents)

/-- The text that a look finds and that has to be applied.  A file that cannot be read is left for the
next look. -/
def news? (reading : Except SystemError String) : Watch → Option String
  | idle baseline => reading.toOption.filter (!isApplied baseline ·)
  | _ => none

/-- The watch after a change of labels. -/
def afterUpdate (contents : String) : Except LabelUpdateError Unit → Watch
  | .ok () => idle (some contents)
  | .error _ => stuck

/-- Goes on with a change of labels: the watch, and the call that it makes. -/
def proceed (contents : String) : LabelDialogue → Watch × Option LabelCall
  | .done result => (afterUpdate contents result, none)
  | .ask call next => (updating contents next, some call)

/-- **A look at the label file.** -/
def look (w : Watch) (static : LabelSet) (reading : Except SystemError String) :
    Watch × Option LabelCall :=
  match w.news? reading with
  | none => (w, none)
  | some contents => proceed contents (softUpdate static contents)

/-- **An answer of the coordinator.** -/
def hear (reply : LabelReply) : Watch → Watch × Option LabelCall
  | updating contents next => proceed contents (next reply)
  | w => (w, none)

/-- Whether the watch is in the middle of a change. -/
def isUpdating : Watch → Bool
  | updating .. => true
  | _ => false

/-- Whether the watch asks for a restart. -/
def isStuck : Watch → Bool
  | stuck => true
  | _ => false

end Watch

end NodeAgent
