import NodeAgent.Label.Watch
import NodeAgent.Supervisor.Retry

/-!
# The supervisor

The supervisor keeps one node connected.  An attempt finds a coordinator, checks it, registers the node
and connects it; while the connection lasts, a watch keeps the labels of the node in step with the
label file.  Whatever ends an attempt, the supervisor decides whether another one follows.

The supervisor is a machine: an event comes in, and calls to its collaborators go out.  Events of the
watch and of the connection may come in any order, so that a run of the machine is one interleaving of
the two.

## Main definitions

* `SupervisorCall`, `SupervisorEvent`: what goes out and what comes in.
* `Phase`, `Supervisor`: the states of the machine.
* `Supervisor.start`, `Supervisor.step`: the first state, and the states after.
-/

namespace NodeAgent

/-- **A node as the coordinator knows it**: who registered it, and under which name. -/
structure Link where
  candidate : Candidate
  name : String
deriving DecidableEq, Repr, Inhabited

/-- **What the supervisor asks of its collaborators.** -/
inductive SupervisorCall
  | discover
  | verify (candidate : Candidate)
  | readLabels
  | create (candidate : Candidate) (registration : Registration)
  | connect (link : Link)
  | label (link : Link) (call : LabelCall)
  /-- To drop the connection. -/
  | disconnect (link : Link)
  /-- To put a fresh process with this command line in the place of the agent. -/
  | restart (argv : List String)
  | sleep (seconds : UInt64)
deriving DecidableEq

/-- **What the supervisor hears.** -/
inductive SupervisorEvent
  | discovered (result : Except ProtocolError Candidate)
  | verified (result : Except ProtocolError Unit)
  | labelsRead (result : Except SystemError String)
  | created (result : Except ProtocolError String)
  | connectionEnded (result : Except TransportError Unit)
  /-- The watch looks at the label file. -/
  | looked (result : Except SystemError String)
  /-- The coordinator answers a call of the watch. -/
  | replied (reply : LabelReply)
  /-- The watch broke down. -/
  | watchDied
  /-- The watch stopped after the end of the connection. -/
  | watchStopped
  /-- The supervisor learns that the watch asks for a restart. -/
  | restartWanted
  | restarted (result : Except SystemError Unit)
  | slept

/-- **What the supervisor is doing.** -/
inductive Phase
  | discovering
  | verifying (candidate : Candidate)
  | readingLabels (candidate : Candidate)
  /-- The node is being registered with the labels in a text of the label file. -/
  | creating (candidate : Candidate) (contents : Option String)
  /-- The node is connected.  There is no watch without a label file, or when it broke down. -/
  | connected (link : Link) (watch : Option Watch)
  /-- The connection has ended, and the watch has not stopped yet. -/
  | leaving (link : Link) (watch : Watch) (result : AttemptResult)
  | restarting
  | waiting
  | finished (outcome : Except AgentError Ending)

/-- **The supervisor**: how far the run has come, and what is being done. -/
structure Supervisor (source : Words) where
  progress : Progress source
  phase : Phase

/-- The end of a connection as the end of an attempt. -/
def AttemptResult.ofConnection : Except TransportError Unit → AttemptResult
  | .ok () => .closed
  | .error cause => .failed (.transport cause)

namespace Supervisor

variable {source : Words}

/-- A state of the machine with the calls that lead to the next event. -/
abbrev Step (source : Words) := Supervisor source × List SupervisorCall

/-- Goes to another phase with a call. -/
def go (p : Progress source) (phase : Phase) (call : SupervisorCall) : Step source :=
  (⟨p, phase⟩, [call])

/-- Goes to another phase and waits there. -/
def stay (p : Progress source) (phase : Phase) : Step source :=
  (⟨p, phase⟩, [])

/-- **The first state.** -/
def start (words : source.State) : Step source :=
  go ⟨{}, words⟩ .discovering .discover

/-- Ends an attempt. -/
def conclude (s : SupervisorSettings) (p : Progress source) (result : AttemptResult) : Step source :=
  match p.decide s result with
  | (.finish outcome, p) => stay p (.finished outcome)
  | (.again wait _, p) => go p .waiting (.sleep wait)

/-- Registers the node. -/
def register (s : SupervisorSettings) (p : Progress source) (candidate : Candidate)
    (contents : Option String) : Step source :=
  go p (.creating candidate contents) (.create candidate (s.registration.withLabelFile contents))

/-- Prepares the registration: with a label file, its labels are read first. -/
def prepare (s : SupervisorSettings) (p : Progress source) (candidate : Candidate) : Step source :=
  if s.labelWatch.isSome then go p (.readingLabels candidate) .readLabels
  else register s p candidate none

/-- Goes on with a watch and passes on the call that it makes. -/
def watching (p : Progress source) (link : Link) (phase : Watch → Phase) :
    Watch × Option LabelCall → Step source
  | (watch, call?) => (⟨p, phase watch⟩, (call?.map (SupervisorCall.label link)).toList)

/-- The labels that stay on the node whatever the file holds. -/
def staticLabels (s : SupervisorSettings) : LabelSet :=
  (s.labelWatch.map (·.staticLabels)).getD .empty

/-- The command line with which the node restarts. -/
def restartArgv (s : SupervisorSettings) : List String :=
  (s.labelWatch.map (·.argv)).getD []

/-- The end of a connection.  A watch that is done already need not stop. -/
def leave (s : SupervisorSettings) (p : Progress source) (link : Link) (result : AttemptResult) :
    Option Watch → Step source
  | none => conclude s p result
  | some .stuck => conclude s p result
  | some watch => stay p (.leaving link watch result)

/-- An event while the node is connected. -/
def stepConnected (s : SupervisorSettings) (p : Progress source) (link : Link)
    (watch : Option Watch) : SupervisorEvent → Step source
  | .connectionEnded result => leave s p link (.ofConnection result) watch
  | .looked reading =>
    match watch with
    | some w => watching p link (.connected link ∘ some) (w.look (staticLabels s) reading)
    | none => stay p (.connected link watch)
  | .replied reply =>
    match watch with
    | some w => watching p link (.connected link ∘ some) (w.hear reply)
    | none => stay p (.connected link watch)
  | .watchDied =>
    match watch with
    | some .stuck => stay p (.connected link watch)
    | _ => stay p (.connected link none)
  | .restartWanted =>
    match watch with
    -- The labels are in an unknown state, so that the connection is dropped before the restart.
    | some .stuck => (⟨p, .restarting⟩, [.disconnect link, .restart (restartArgv s)])
    | _ => stay p (.connected link watch)
  | _ => stay p (.connected link watch)

/-- An event after the end of the connection.  The watch finishes what it is doing; whether that
succeeds does not matter any more. -/
def stepLeaving (s : SupervisorSettings) (p : Progress source) (link : Link) (watch : Watch)
    (result : AttemptResult) : SupervisorEvent → Step source
  | .looked reading =>
    watching p link (.leaving link · result) (watch.look (staticLabels s) reading)
  | .replied reply =>
    let (next, call?) := watch.hear reply
    -- Nobody is left to ask for a restart.
    if next.isStuck then conclude s p result
    else watching p link (.leaving link · result) (next, call?)
  | .watchDied => conclude s p result
  | .watchStopped =>
    if watch.isUpdating then stay p (.leaving link watch result) else conclude s p result
  | _ => stay p (.leaving link watch result)

/-- **The machine.**  An event that does not fit the phase changes nothing. -/
def step (s : SupervisorSettings) (state : Supervisor source) (event : SupervisorEvent) :
    Step source :=
  let p := state.progress
  match state.phase, event with
  | .discovering, .discovered (.ok candidate) =>
    if s.verify then go p (.verifying candidate) (.verify candidate) else prepare s p candidate
  | .discovering, .discovered (.error cause) => conclude s p (.failed (.protocol cause))
  | .verifying candidate, .verified (.ok ()) => prepare s p candidate
  | .verifying _, .verified (.error cause) => conclude s p (.failed (.protocol cause))
  | .readingLabels candidate, .labelsRead reading => register s p candidate reading.toOption
  -- From here on the node goes by the name that the coordinator settled on.
  | .creating candidate contents, .created (.ok name) =>
    let link : Link := ⟨candidate, name⟩
    go p (.connected link (s.labelWatch.map fun _ => .idle contents)) (.connect link)
  | .creating _ _, .created (.error cause) => conclude s p (.failed (.protocol cause))
  | .connected link watch, event => stepConnected s p link watch event
  | .leaving link watch result, event => stepLeaving s p link watch result event
  | .restarting, .restarted (.ok ()) => conclude s p .restarted
  | .restarting, .restarted (.error cause) => conclude s p (.restartFailed cause)
  | .waiting, .slept => go p .discovering .discover
  | phase, _ => stay p phase

end Supervisor

end NodeAgent
