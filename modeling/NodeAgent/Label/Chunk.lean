import NodeAgent.Coordinator.Exchange
import NodeAgent.Coordinator.Registration

/-!
# Packing labels into requests

The labels of a node are changed by requests that give labels and requests that take them.  A request
carries labels as one text, and its length is limited.  A long list of labels is therefore sent in several
chunks.  Labels are packed greedily, in order, and never split: a chunk is shorter than the limit unless
it is a single label.

## Main definitions

* `chunkLimit`: the limit of a request, in bytes.
* `chunks`: the texts in which a list of labels is sent.
* `LabelChange`: what a request does with labels.
-/

namespace NodeAgent

/-- Joined labels that are sent in one request stay shorter than this many bytes. -/
def chunkLimit : Nat := 1000

/-- Packs labels behind the labels of an open chunk, whose text is not empty. -/
def packBehind (limit : Nat) (openChunk : String) : List String → List String
  | [] => [openChunk]
  | label :: rest =>
    if label.isEmpty then packBehind limit openChunk rest
    else if limit ≤ openChunk.utf8ByteSize + 1 + label.utf8ByteSize then
      openChunk :: packBehind limit label rest
    else packBehind limit (openChunk ++ " " ++ label) rest

/-- **The chunks of a list of labels.**  Empty entries are skipped. -/
def chunks (limit : Nat) : List String → List String
  | [] => []
  | label :: rest => if label.isEmpty then chunks limit rest else packBehind limit label rest

/-- The chunks in which a set of labels is sent. -/
def LabelSet.chunks (s : LabelSet) : List String :=
  NodeAgent.chunks chunkLimit s.toList

/-- Whether the labels of a registration are sent after it, since they are too long to go along. -/
def Registration.defersLabels (r : Registration) : Bool :=
  chunkLimit < r.labels.joined.utf8ByteSize

/-- A change of the labels of a node. -/
inductive LabelChange
  | adding
  | removing
deriving DecidableEq, Repr, Inhabited

namespace LabelChange

/-- Where a change is asked for. -/
def endpoint : LabelChange → Endpoint
  | adding => .addLabels
  | removing => .removeLabels

/-- The change in messages. -/
def operation : LabelChange → Operation
  | adding => .addLabels
  | removing => .removeLabels

end LabelChange

end NodeAgent
