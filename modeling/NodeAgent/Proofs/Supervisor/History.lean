import Mathlib.Data.List.Induction
import NodeAgent.Proofs.Supervisor.Step

/-!
# The history of a run

A run is a list of events that are heard and of calls that are made, in the order in which they happen.
With each search for a coordinator another attempt begins.  A call is waited for until an event settles
it, and the first such event is its answer.

## Main definitions

* `Entry`, `history`: what happens in a run.
* `currentAttempt`, `stages`: the attempt at hand, and how far it has come.
* `Awaits`, `Answered`: calls that are waited for, and calls with their answers.

## Main results

* `calls_history`: the calls in a history are those of the run.
* `history_concat`: what another event adds to a history.
* `Awaits.answered`: an event that settles a call is its answer.
-/

namespace NodeAgent

namespace Supervisor

/-- **What happens in a run.** -/
inductive Entry
  | heard (event : SupervisorEvent)
  | called (call : SupervisorCall)

/-- The call of an entry. -/
def Entry.call? : Entry → Option SupervisorCall
  | called call => some call
  | heard _ => none

/-- The calls in a history. -/
def calls (history : List Entry) : List SupervisorCall :=
  history.filterMap Entry.call?

theorem calls_append (first later : List Entry) : calls (first ++ later) = calls first ++ calls later :=
  List.filterMap_append

@[simp] theorem calls_heard (event : SupervisorEvent) (later : List Entry) :
    calls (.heard event :: later) = calls later := rfl

@[simp] theorem calls_map_called (made : List SupervisorCall) : calls (made.map .called) = made := by
  rw [calls, List.filterMap_map]
  exact List.filterMap_some

section Runs

variable {source : Words} (s : SupervisorSettings)

/-- What happens from a state on. -/
def log : Supervisor source → List SupervisorEvent → List Entry
  | _, [] => []
  | state, event :: events =>
    .heard event :: (step s state event).2.map .called ++ log (step s state event).1 events

/-- **The history of a run** along events. -/
def history (words : source.State) (events : List SupervisorEvent) : List Entry :=
  (start words : Step source).2.map .called ++ log s (start words).1 events

theorem log_append (state : Supervisor source) (first later : List SupervisorEvent) :
    log s state (first ++ later) = log s state first ++ log s (run s state first).1 later := by
  induction first generalizing state with
  | nil => rfl
  | cons event first ih => simp [log, run_cons, ih, List.append_assoc]

theorem calls_log (state : Supervisor source) (events : List SupervisorEvent) :
    calls (log s state events) = (run s state events).2 := by
  induction events generalizing state with
  | nil => rfl
  | cons event events ih =>
    rw [log, run_cons, calls_append, ih, calls_heard, calls_map_called]

/-- **The calls in a history are those of the run.** -/
theorem calls_history (words : source.State) (events : List SupervisorEvent) :
    calls (history s words events) =
      (start words : Step source).2 ++ (run s (start words).1 events).2 := by
  rw [history, calls_append, calls_log, calls_map_called]

/-- **Another event** adds itself to a history, and the calls that are made then. -/
theorem history_concat (words : source.State) (events : List SupervisorEvent)
    (event : SupervisorEvent) :
    history s words (events ++ [event]) = history s words events ++
      .heard event :: (step s (run s (start words).1 events).1 event).2.map .called := by
  simp [history, log_append, log]

end Runs

/-! ## Attempts -/

/-- The attempt after another entry.  To look for a coordinator is to begin anew. -/
def extend (attempt : List Entry) : Entry → List Entry
  | .called .discover => [.called .discover]
  | entry => attempt ++ [entry]

/-- **The attempt at hand**: what has happened since a coordinator was last looked for. -/
def currentAttempt (history : List Entry) : List Entry :=
  history.foldl extend []

theorem currentAttempt_discover (history : List Entry) :
    currentAttempt (history ++ [.called .discover]) = [.called .discover] :=
  List.foldl_append

theorem currentAttempt_append (history : List Entry) {later : List Entry}
    (h : .called .discover ∉ later) :
    currentAttempt (history ++ later) = currentAttempt history ++ later := by
  induction later using List.reverseRecOn with
  | nil => simp
  | append_singleton later entry ih =>
    simp only [List.mem_append, List.mem_singleton, not_or] at h
    have hentry : ∀ attempt, extend attempt entry = attempt ++ [entry] := by
      intro attempt
      unfold extend
      split
      · exact absurd rfl h.2
      · rfl
    have hfold : currentAttempt (history ++ later ++ [entry]) =
        extend (currentAttempt (history ++ later)) entry :=
      List.foldl_append
    rw [← List.append_assoc, hfold, hentry, ih h.1, List.append_assoc]

/-- Whether a call is one of the stages that an attempt goes through. -/
def isStage : SupervisorCall → Bool
  | .discover | .verify _ | .create .. | .connect _ => true
  | _ => false

/-- **The stages of an attempt**, as far as it has come. -/
def stages (attempt : List Entry) : List SupervisorCall :=
  (calls attempt).filter isStage

theorem stages_append (first later : List Entry) :
    stages (first ++ later) = stages first ++ stages later := by
  rw [stages, calls_append, List.filter_append, ← stages, ← stages]

theorem stages_concat_heard (history : List Entry) (event : SupervisorEvent) :
    stages (currentAttempt (history ++ [.heard event])) = stages (currentAttempt history) := by
  rw [currentAttempt_append history (by simp), stages_append]
  exact List.append_nil _

theorem stages_concat_called (history : List Entry) {call : SupervisorCall} (h : call ≠ .discover) :
    stages (currentAttempt (history ++ [.called call])) =
      stages (currentAttempt history) ++ [call].filter isStage := by
  have hnot : .called .discover ∉ [Entry.called call] := by simpa using h.symm
  rw [currentAttempt_append history hnot, stages_append]
  rfl

/-! ## Calls and their answers -/

/-- Whether an event is what a call is waited for.  A watch that breaks down waits for nothing. -/
def settles : SupervisorCall → SupervisorEvent → Bool
  | .discover, .discovered _ => true
  | .verify _, .verified _ => true
  | .readLabels, .labelsRead _ => true
  | .create .., .created _ => true
  | .connect _, .connectionEnded _ => true
  | .label .., .replied _ => true
  | .label .., .watchDied => true
  | .restart _, .restarted _ => true
  | .sleep _, .slept => true
  | _, _ => false

/-- **Whether a call is waited for**: nothing has settled it since it was made. -/
def Awaits (history : List Entry) (call : SupervisorCall) : Prop :=
  ∃ before since, history = before ++ .called call :: since ∧
    ∀ event, .heard event ∈ since → settles call event = false

/-- **Whether an event is the answer to a call**: it is the first one to settle the call. -/
def Answered (history : List Entry) (call : SupervisorCall) (event : SupervisorEvent) : Prop :=
  ∃ before since, Awaits before call ∧ settles call event = true ∧
    history = before ++ .heard event :: since

variable {history later : List Entry} {call : SupervisorCall} {event : SupervisorEvent}

theorem Answered.append (h : Answered history call event) (later : List Entry) :
    Answered (history ++ later) call event := by
  obtain ⟨before, since, hawaits, hsettles, rfl⟩ := h
  exact ⟨before, since ++ later, hawaits, hsettles, by simp⟩

/-- **An event that settles a call is its answer.** -/
theorem Awaits.answered (h : Awaits history call) (he : settles call event = true)
    (later : List Entry) : Answered (history ++ .heard event :: later) call event :=
  ⟨history, later, h, he, rfl⟩

theorem Awaits.append (h : Awaits history call)
    (hl : ∀ event, .heard event ∈ later → settles call event = false) :
    Awaits (history ++ later) call := by
  obtain ⟨before, since, rfl, hsince⟩ := h
  refine ⟨before, since ++ later, by simp, fun event he => ?_⟩
  rcases List.mem_append.mp he with he | he
  · exact hsince event he
  · exact hl event he

theorem awaits_called (history : List Entry) (call : SupervisorCall) :
    Awaits (history ++ [.called call]) call :=
  ⟨history, [], rfl, fun _ h => nomatch h⟩

/-- A call that is waited for was made since, or it was waited for before. -/
theorem Awaits.of_append (h : Awaits (history ++ later) call) (hl : .called call ∉ later) :
    Awaits history call ∧ ∀ event, .heard event ∈ later → settles call event = false := by
  obtain ⟨before, since, heq, hsince⟩ := h
  rcases List.append_eq_append_iff.mp heq with ⟨rest, rfl, hrest⟩ | ⟨rest, rfl, hrest⟩
  · rw [hrest] at hl
    exact absurd (List.mem_append_right rest List.mem_cons_self) hl
  · cases rest with
    | nil =>
      rw [← show _ = later from hrest] at hl
      exact absurd List.mem_cons_self hl
    | cons entry rest =>
      obtain ⟨rfl, rfl⟩ := List.cons.inj hrest
      refine ⟨⟨before, rest, rfl, fun event he => ?_⟩, fun event he => ?_⟩
      · exact hsince event (List.mem_append_left later he)
      · exact hsince event (List.mem_append_right rest he)

/-! ## Calls of the watch -/

/-- **Whether no call of a watch is under way.** -/
def Quiet (history : List Entry) : Prop :=
  ∀ link call, ¬ Awaits history (.label link call)

theorem quiet_nil : Quiet [] := by
  rintro link call ⟨before, since, heq, -⟩
  cases before <;> cases heq

theorem Quiet.append (h : Quiet history) (hl : ∀ link call, .called (.label link call) ∉ later) :
    Quiet (history ++ later) :=
  fun link call hawaits => h link call (hawaits.of_append (hl link call)).1

/-- A call of a watch is settled by the answer, and by the end of the watch. -/
theorem quiet_of_settles (history : List Entry)
    (he : ∀ link call, settles (.label link call) event = true) :
    Quiet (history ++ [.heard event]) := by
  intro link call hawaits
  have hnot := (hawaits.of_append (by simp)).2 event List.mem_cons_self
  rw [he] at hnot
  cases hnot

end Supervisor

end NodeAgent
