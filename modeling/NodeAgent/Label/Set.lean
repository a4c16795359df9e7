import NodeAgent.Text.Sorted
import NodeAgent.Text.Split

/-!
# Sets of labels

A label names something a machine can do.  It is one word.  A node carries a set of labels, which has
one written form: the labels in increasing order, separated by single spaces.  Labels are ordered
character by character, which is also the order of their UTF-8 bytes.

## Main definitions

* `IsLabel`, `label?`: what a label is, and the label that a text stands for.
* `LabelSet`: a set of labels, listed in strictly increasing order.
* `LabelSet.parse`, `LabelSet.joined`: reading and writing a set.
* `LabelSet.union`, `LabelSet.diff`, `LabelSet.withoutManaged`: the operations on sets.
-/

namespace NodeAgent

open Text

/-- **What a label is**: a text that is not empty and holds no blank. -/
def IsLabel (l : String) : Prop :=
  l ≠ "" ∧ ∀ c ∈ l.toList, isBlank c = false

instance (l : String) : Decidable (IsLabel l) :=
  decidable_of_iff (l ≠ "" ∧ (l.toList.all fun c => !isBlank c) = true) (by simp [IsLabel])

/-- The label that a text stands for, blanks around it aside; `none` if that is not a single label. -/
def label? (text : String) : Option { l : String // IsLabel l } :=
  if h : IsLabel (trim text) then some ⟨trim text, h⟩ else none

/-- **A set of labels**, listed in strictly increasing order. -/
structure LabelSet where
  /-- The labels in increasing order. -/
  toList : List String
  sorted : toList.Pairwise (· < ·)
  areLabels : ∀ l ∈ toList, IsLabel l
deriving DecidableEq

namespace LabelSet

/-- The set without labels. -/
def empty : LabelSet := ⟨[], List.Pairwise.nil, fun _ h => nomatch h⟩

instance : Inhabited LabelSet := ⟨empty⟩

/-- Adds one label. -/
def insert (s : LabelSet) (l : { l : String // IsLabel l }) : LabelSet where
  toList := insertSorted l.val s.toList
  sorted := pairwise_insertSorted s.sorted
  areLabels x hx := (mem_insertSorted.mp hx).elim (fun h => h ▸ l.property) (s.areLabels x)

/-- Adds the label that a text stands for; a text that is not a single label is ignored. -/
def add (s : LabelSet) (text : String) : LabelSet :=
  match label? text with
  | some l => s.insert l
  | none => s

/-- Whether a text is a label of the set. -/
def contains (s : LabelSet) (l : String) : Bool :=
  s.toList.contains l

/-- Whether `add` would enlarge the set. -/
def wouldAdd (s : LabelSet) (text : String) : Bool :=
  match label? text with
  | some l => !s.contains l.val
  | none => false

/-- The set of the labels that the texts stand for. -/
def ofList (texts : List String) : LabelSet :=
  texts.foldl add empty

/-- **Reads a set**: every word of the text is a label. -/
def parse (text : String) : LabelSet :=
  ofList (words text)

/-- Keeps the labels that satisfy `p`. -/
def filter (s : LabelSet) (p : String → Bool) : LabelSet where
  toList := s.toList.filter p
  sorted := s.sorted.sublist List.filter_sublist
  areLabels l hl := s.areLabels l (List.mem_filter.mp hl).1

/-- The labels of either set. -/
def union (s t : LabelSet) : LabelSet :=
  t.toList.attach.foldl (fun acc l => acc.insert ⟨l.val, t.areLabels l.val l.property⟩) s

/-- The labels of the first set that the second does not have. -/
def diff (s t : LabelSet) : LabelSet :=
  s.filter fun l => !t.contains l

/-- **The label that the coordinator puts on every node by itself.** -/
def managed : String := "swarm"

/-- The labels that are the node's own. -/
def withoutManaged (s : LabelSet) : LabelSet :=
  s.filter (· != managed)

/-- The number of labels. -/
def size (s : LabelSet) : Nat :=
  s.toList.length

/-- Whether there are no labels. -/
def isEmpty (s : LabelSet) : Bool :=
  s.toList.isEmpty

/-- **The written form of a set.** -/
def joined (s : LabelSet) : String :=
  " ".intercalate s.toList

end LabelSet

end NodeAgent
