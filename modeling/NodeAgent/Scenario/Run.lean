import NodeAgent.Scenario.World

/-!
# Runs in a scenario

A supervisor, a watch or a single change of labels is run against scripted collaborators.  A call has
its answer at once; time passes from one timer to the next.

## Main definitions

* `Rehearsal.play`: a run of the supervisor up to a limit of time.
* `World.watch`: a run of a watch until it is stopped.
* `World.update`: one change of labels.
-/

namespace NodeAgent

/-- The timers that a run may wait for. -/
structure Timers where
  /-- When the connection ends, and how. -/
  connectionEnds : Option (Nat × Except TransportError Unit) := none
  /-- When the watch looks at the label file. -/
  looks : Option Nat := none
  /-- When the wait between two attempts is over. -/
  wakes : Option Nat := none

/-- A supervisor among its collaborators. -/
structure Rehearsal (source : Words) where
  settings : SupervisorSettings
  supervisor : Supervisor source
  world : World
  timers : Timers := {}

namespace Rehearsal

variable {source : Words}

/-- Sets the timers that come with a call. -/
def setTimers (r : Rehearsal source) : SupervisorCall → Rehearsal source
  | .connect _ =>
    let (outcome, rest) := r.world.connect.next {}
    { r with
      world := { r.world with connect := rest }
      timers := {
        connectionEnds := some (r.world.clock + outcome.lasts, outcome.result)
        looks := r.settings.labelWatch.map (r.world.clock + ·.pollInterval) } }
  | .sleep seconds => { r with timers := { wakes := some (r.world.clock + 1000 * seconds.toNat) } }
  | _ => r

/-- Makes calls.  At most one of them has an answer. -/
def makeCalls (r : Rehearsal source) : List SupervisorCall → Option SupervisorEvent × Rehearsal source
  | [] => (none, r)
  | call :: calls =>
    let (event?, world) := r.world.perform call
    let (later?, r) := ({ r with world }.setTimers call).makeCalls calls
    (event? <|> later?, r)

/-- An event comes in. -/
def hear (r : Rehearsal source) (event : SupervisorEvent) : Option SupervisorEvent × Rehearsal source :=
  let (supervisor, calls) := r.supervisor.step r.settings event
  { r with supervisor }.makeCalls calls

/-- Lets time pass. -/
def passTo (r : Rehearsal source) (time : Nat) : Rehearsal source :=
  { r with world := { r.world with clock := time } }

/-- The connection ends by itself. -/
def endConnection (r : Rehearsal source) (time : Nat) (result : Except TransportError Unit) :
    SupervisorEvent × Rehearsal source :=
  let r := r.passTo time
  (.connectionEnded result, { r with world := r.world.record .connectionEnded, timers := {} })

/-- The watch looks at the label file. -/
def lookAtFile (r : Rehearsal source) (time : Nat) : SupervisorEvent × Rehearsal source :=
  let r := r.passTo time
  let next := r.settings.labelWatch.map (time + ·.pollInterval)
  (.looked r.world.readLabelFile, { r with timers := { r.timers with looks := next } })

/-- The next event while the node is connected, and when it comes. -/
def nextConnected (r : Rehearsal source) (watch : Option Watch) :
    Option (Nat × (SupervisorEvent × Rehearsal source)) :=
  let ends? := r.timers.connectionEnds.map fun (time, result) => (time, r.endConnection time result)
  let looks? := r.timers.looks.map fun time => (time, r.lookAtFile time)
  match watch with
  | some .stuck => some (r.world.clock, (.restartWanted, r))
  | some (.idle _) =>
    match ends?, looks? with
    -- Of two timers at one time the end of the connection comes first.
    | some e, some l => some (if l.1 < e.1 then l else e)
    | e?, l? => e? <|> l?
  | _ => ends?

/-- **The next event that nobody has to be asked for**, and when it comes. -/
def next (r : Rehearsal source) : Option (Nat × (SupervisorEvent × Rehearsal source)) :=
  match r.supervisor.phase with
  | .connected _ watch => r.nextConnected watch
  | .leaving .. => some (r.world.clock, (.watchStopped, r))
  | .waiting => r.timers.wakes.map fun time => (time, (.slept, r.passTo time))
  | _ => none

/-- Stops a run at a time.  A connection is dropped. -/
def cutAt (r : Rehearsal source) (limit : Nat) : Rehearsal source :=
  let r := r.passTo limit
  match r.supervisor.phase with
  | .connected link _ => { r with world := r.world.record (.call (.disconnect link)) }
  | _ => r

/-- Goes on with a run, event by event. -/
def run (limit : Nat) : Nat → Option SupervisorEvent → Rehearsal source → Rehearsal source
  | 0, _, r => r.cutAt limit
  | fuel + 1, some event, r =>
    let (event?, r) := r.hear event
    run limit fuel event? r
  | fuel + 1, none, r =>
    match r.supervisor.phase, r.next with
    | .finished _, _ => r
    | _, some (time, (event, later)) =>
      -- What would happen after the limit is not seen.
      if time ≤ limit then run limit fuel (some event) later else r.cutAt limit
    | _, none => r.cutAt limit

/-- **A run of the supervisor**, cut off after `limit` milliseconds.  Each millisecond has room for a
look at the label file with its calls, and for the end of an attempt. -/
def play (settings : SupervisorSettings) (world : World) (words : source.State) (limit : Nat) :
    Rehearsal source :=
  let (supervisor, calls) := Supervisor.start words
  let (event?, r) := (⟨settings, supervisor, world, {}⟩ : Rehearsal source).makeCalls calls
  run limit (32 * (limit + 8)) event? r

/-- How a run ended, unless it was cut off. -/
def outcome? (r : Rehearsal source) : Option (Except AgentError Ending) :=
  match r.supervisor.phase with
  | .finished outcome => some outcome
  | _ => none

end Rehearsal

/-- **How a watch ends.** -/
inductive WatchEnding
  | stopped
  | restartWanted
  | brokeDown
deriving DecidableEq, Repr

namespace World

/-- What the coordinator does with a call, as an action that may break down. -/
def answering (link : Link) (call : LabelCall) : OptionT (StateM World) LabelReply :=
  OptionT.mk fun w => w.answer link call

/-- One change of labels; no result if the caller breaks down. -/
def update (link : Link) (static : LabelSet) (contents : String) (w : World) :
    Option (Except LabelUpdateError Unit) × World :=
  ((softUpdate static contents).holdWith (answering link)).run.run w

/-- A look of a watch with the change of labels that follows; no watch if it breaks down. -/
def lookWith (link : Link) (static : LabelSet) (watch : Watch) (w : World) : Option Watch × World :=
  match watch.news? w.readLabelFile with
  | none => (some watch, w)
  | some contents =>
    let (result?, w) := w.update link static contents
    (result?.map (Watch.afterUpdate contents), w)

/-- Looks at the label file so many times, unless the watch ends before. -/
def watchFor (link : Link) (static : LabelSet) (pollInterval stop : Nat) :
    Nat → Watch → World → WatchEnding × World
  | 0, _, w => (.stopped, { w with clock := stop })
  | looks + 1, watch, w =>
    match { w with clock := w.clock + pollInterval }.lookWith link static watch with
    | (none, w) => (.brokeDown, w)
    | (some .stuck, w) => (.restartWanted, w)
    | (some watch, w) => watchFor link static pollInterval stop looks watch w

/-- **A run of a watch** that is stopped at a time. -/
def watch (link : Link) (static : LabelSet) (pollInterval stop : Nat) (baseline : Option String)
    (w : World) : WatchEnding × World :=
  watchFor link static pollInterval stop ((stop - 1) / pollInterval) (.idle baseline) w

end World

end NodeAgent
