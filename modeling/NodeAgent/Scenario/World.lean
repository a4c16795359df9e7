import NodeAgent.Supervisor.Basic
import NodeAgent.Text.Utf8

/-!
# Scripted collaborators

A scenario says in advance what every collaborator of the supervisor does: call by call, and when.  The
coordinator of a scenario keeps the labels of the node as a real one does, so that what the calls do to
them can be seen.  Time is in milliseconds and passes only while a timer is waited for.

## Main definitions

* `Script`: the outcomes of the calls of one kind.
* `World`: the collaborators, the clock, the labels that the coordinator holds, and a log.
* `World.answer`: what the coordinator does with a call about labels.
* `World.perform`: what the collaborators do with a call of the supervisor.
-/

namespace NodeAgent

/-- **The outcomes of the calls of one kind**, one after the other; the last one repeats. -/
abbrev Script (α : Type) := List α

/-- The outcome of the next call, and the script of those after. -/
def Script.next {α : Type} (byDefault : α) : Script α → α × Script α
  | [] => (byDefault, [])
  | [outcome] => (outcome, [outcome])
  | outcome :: rest => (outcome, rest)

/-- The outcome of a call about labels. -/
inductive LabelOutcome
  | succeeds
  | fails (cause : ProtocolError)
  /-- The task that makes the call breaks down. -/
  | breaks
deriving DecidableEq, Repr, Inhabited

/-- The outcome of a registration. -/
structure CreateOutcome where
  /-- The name that the coordinator settles on, unless it is the one asked for. -/
  name : Option String := none
  /-- Labels that the coordinator adds. -/
  adds : LabelSet := .empty

/-- The outcome of a connection: how long it lasts, and how it ends. -/
structure ConnectionOutcome where
  lasts : Nat := 0
  result : Except TransportError Unit := .ok ()

/-- **What is seen of a run.** -/
inductive Happening
  | call (call : SupervisorCall)
  /-- The connection ended by itself. -/
  | connectionEnded
deriving DecidableEq

/-- **The collaborators of a supervisor.** -/
structure World where
  clock : Nat := 0
  discover : Script (Except ProtocolError Candidate) := []
  /-- Whom discovery finds where no outcome says otherwise. -/
  standardCandidate : Candidate
  verify : Script (Except ProtocolError Unit) := []
  create : Script (Except ProtocolError CreateOutcome) := []
  get : Script LabelOutcome := []
  add : Script LabelOutcome := []
  remove : Script LabelOutcome := []
  connect : Script ConnectionOutcome := []
  restart : Script (Except SystemError Unit) := []
  /-- What the label file holds from which time on, in order of time; nothing if it is not there. -/
  labelFile : List (Nat × Option Bytes) := []
  /-- The labels that the coordinator holds. -/
  held : LabelSet := .empty
  /-- What happened when, the last first. -/
  log : List (Nat × Happening) := []

namespace World

/-- Puts something into the log. -/
def record (w : World) (h : Happening) : World :=
  { w with log := (w.clock, h) :: w.log }

/-- What the label file holds now. -/
def labelFileNow (w : World) : Option Bytes :=
  ((w.labelFile.takeWhile (·.1 ≤ w.clock)).getLast?).bind (·.2)

/-- **A look at the label file.** -/
def readLabelFile (w : World) : Except SystemError String :=
  match w.labelFileNow with
  | none => .error .noSuchFile
  | some content =>
    match Text.decodeUtf8? content with
    | some text => .ok text
    | none => .error .notText

/-- The outcome of the next call about labels. -/
def nextLabelOutcome (w : World) : LabelCall → LabelOutcome × World
  | .get => let (o, rest) := w.get.next .succeeds; (o, { w with get := rest })
  | .remove _ => let (o, rest) := w.remove.next .succeeds; (o, { w with remove := rest })
  | .add _ => let (o, rest) := w.add.next .succeeds; (o, { w with add := rest })

/-- What a call does to the labels that the coordinator holds. -/
def changeLabels (held : LabelSet) : LabelCall → LabelSet
  | .get => held
  | .remove labels => held.diff labels
  | .add labels => held.union labels

/-- **What the coordinator does with a call about labels**; no answer if the caller breaks down. -/
def answer (link : Link) (call : LabelCall) (w : World) : Option LabelReply × World :=
  match (w.record (.call (.label link call))).nextLabelOutcome call with
  | (.succeeds, w) =>
    let held := changeLabels w.held call
    (some (.ok held), { w with held })
  | (.fails cause, w) => (some (.error cause), w)
  | (.breaks, w) => (none, w)

/-- What the coordinator does with a registration. -/
def register (w : World) (registration : Registration) : Except ProtocolError String × World :=
  let (outcome, rest) := w.create.next (.ok {})
  let w := { w with create := rest }
  match outcome with
  | .error cause => (.error cause, w)
  | .ok made =>
    (.ok (made.name.getD registration.name), { w with held := registration.labels.union made.adds })

/-- **What the collaborators do with a call**, and the event that follows at once, if one does. -/
def perform (call : SupervisorCall) (w : World) : Option SupervisorEvent × World :=
  match call with
  | .label link labelCall =>
    let (reply?, w) := w.answer link labelCall
    (some (reply?.elim .watchDied .replied), w)
  | call =>
    let w := w.record (.call call)
    match call with
    | .discover =>
      let (outcome, rest) := w.discover.next (.ok w.standardCandidate)
      (some (.discovered outcome), { w with discover := rest })
    | .verify _ =>
      let (outcome, rest) := w.verify.next (.ok ())
      (some (.verified outcome), { w with verify := rest })
    | .readLabels => (some (.labelsRead w.readLabelFile), w)
    | .create _ registration =>
      let (outcome, w) := w.register registration
      (some (.created outcome), w)
    | .restart _ =>
      let (outcome, rest) := w.restart.next (.ok ())
      (some (.restarted outcome), { w with restart := rest })
    | .connect _ | .disconnect _ | .sleep _ | .label .. => (none, w)

/-- What happened when, in order. -/
def history (w : World) : List (Nat × Happening) :=
  w.log.reverse

end World

end NodeAgent
