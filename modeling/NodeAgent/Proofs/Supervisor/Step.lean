import NodeAgent.Supervisor.Basic

/-!
# What the supervisor can do in one step

An event ends the attempt at hand, with a result, or it moves the attempt on.  The moves are listed
here once, each with its calls, and everything that is proved about the supervisor starts from the
list.

## Main definitions

* `Phase.watch?`: the watch that runs in a phase.
* `Supervisor.result?`: the result with which an event ends the attempt.
* `Supervisor.takesUp`: whether a phase takes up an event of the watch or of the coordinator.
* `Supervisor.Move`: the moves within an attempt, and from the wait to the next attempt.
* `Supervisor.run`: a run of the machine along events.

## Main results

* `step_of_result`, `step_cases`: a step is the end of an attempt or one of the moves.
* `conclude_cases`: an attempt that ends is followed by the end of the run or by a wait.
-/

namespace NodeAgent

/-- The watch that runs in a phase. -/
def Phase.watch? : Phase → Option Watch
  | .connected _ watch => watch
  | .leaving _ watch _ => some watch
  | _ => none

namespace Supervisor

variable {source : Words}

/-- **The result with which an event ends the attempt** at hand, if it ends it. -/
def result? : Phase → SupervisorEvent → Option AttemptResult
  | .discovering, .discovered (.error cause) => some (.failed (.protocol cause))
  | .verifying _, .verified (.error cause) => some (.failed (.protocol cause))
  | .creating _ _, .created (.error cause) => some (.failed (.protocol cause))
  | .connected _ none, .connectionEnded result => some (.ofConnection result)
  | .connected _ (some .stuck), .connectionEnded result => some (.ofConnection result)
  | .leaving _ watch result, .replied reply =>
    if (watch.hear reply).1.isStuck then some result else none
  | .leaving _ _ result, .watchDied => some result
  | .leaving _ watch result, .watchStopped => if watch.isUpdating then none else some result
  | .restarting, .restarted (.ok ()) => some .restarted
  | .restarting, .restarted (.error cause) => some (.restartFailed cause)
  | _, _ => none

/-- The calls of a watch, as calls of the supervisor. -/
def labelCalls (link : Link) (call? : Option LabelCall) : List SupervisorCall :=
  (call?.map (SupervisorCall.label link)).toList

/-- **What a watch does** with an event, and the call it makes. -/
inductive WatchMove (static : LabelSet) :
    Watch → SupervisorEvent → Watch → Option LabelCall → Prop
  | look (watch : Watch) (reading : Except SystemError String) :
      WatchMove static watch (.looked reading) (watch.look static reading).1
        (watch.look static reading).2
  | hear (watch : Watch) (reply : LabelReply) :
      WatchMove static watch (.replied reply) (watch.hear reply).1 (watch.hear reply).2

/-- Whether a phase takes up the answer of the coordinator or what the watch does. -/
def takesUp : Phase → SupervisorEvent → Bool
  | .creating .., .created _ => true
  | .connected _ (some _), .looked _ => true
  | .connected _ (some _), .replied _ => true
  | .connected _ (some watch), .watchDied => !watch.isStuck
  | .leaving .., .looked _ => true
  | .leaving .., .replied _ => true
  | _, _ => false

/-- **The moves of the supervisor** that do not end an attempt, with the calls that go with them. -/
inductive Move (s : SupervisorSettings) :
    Phase → SupervisorEvent → Phase → List SupervisorCall → Prop
  | verify (candidate : Candidate) (h : s.verify = true) :
      Move s .discovering (.discovered (.ok candidate)) (.verifying candidate) [.verify candidate]
  | read (candidate : Candidate) (phase : Phase) (event : SupervisorEvent)
      (h : phase = .discovering ∧ event = .discovered (.ok candidate) ∧ s.verify = false ∨
        phase = .verifying candidate ∧ event = .verified (.ok ()))
      (hw : s.labelWatch.isSome = true) :
      Move s phase event (.readingLabels candidate) [.readLabels]
  | registerAtOnce (candidate : Candidate) (phase : Phase) (event : SupervisorEvent)
      (h : phase = .discovering ∧ event = .discovered (.ok candidate) ∧ s.verify = false ∨
        phase = .verifying candidate ∧ event = .verified (.ok ()))
      (hw : s.labelWatch = none) :
      Move s phase event (.creating candidate none)
        [.create candidate (s.registration.withLabelFile none)]
  | register (candidate : Candidate) (reading : Except SystemError String) :
      Move s (.readingLabels candidate) (.labelsRead reading) (.creating candidate reading.toOption)
        [.create candidate (s.registration.withLabelFile reading.toOption)]
  | connect (candidate : Candidate) (contents : Option String) (name : String) :
      Move s (.creating candidate contents) (.created (.ok name))
        (.connected ⟨candidate, name⟩ (s.labelWatch.map fun _ => .idle contents))
        [.connect ⟨candidate, name⟩]
  | watch (link : Link) (watch next : Watch) (event : SupervisorEvent) (call? : Option LabelCall)
      (h : WatchMove (staticLabels s) watch event next call?) :
      Move s (.connected link (some watch)) event (.connected link (some next))
        (labelCalls link call?)
  | loseWatch (link : Link) (watch : Watch) (h : watch.isStuck = false) :
      Move s (.connected link (some watch)) .watchDied (.connected link none) []
  | drop (link : Link) :
      Move s (.connected link (some .stuck)) .restartWanted .restarting
        [.disconnect link, .restart (restartArgv s)]
  | leave (link : Link) (watch : Watch) (result : Except TransportError Unit)
      (h : watch.isStuck = false) :
      Move s (.connected link (some watch)) (.connectionEnded result)
        (.leaving link watch (.ofConnection result)) []
  | finishWatch (link : Link) (watch next : Watch) (result : AttemptResult)
      (event : SupervisorEvent) (call? : Option LabelCall)
      (h : WatchMove (staticLabels s) watch event next call?)
      (hn : ∀ reply, event = .replied reply → next.isStuck = false) :
      Move s (.leaving link watch result) event (.leaving link next result) (labelCalls link call?)
  | discover : Move s .waiting .slept .discovering [.discover]
  | ignore (phase : Phase) (event : SupervisorEvent) (h : takesUp phase event = false) :
      Move s phase event phase []

/-- An event that ends the attempt is followed by what the result calls for. -/
theorem step_of_result (s : SupervisorSettings) {state : Supervisor source}
    {event : SupervisorEvent} {result : AttemptResult}
    (h : result? state.phase event = some result) :
    step s state event = conclude s state.progress result := by
  obtain ⟨p, phase⟩ := state
  change result? phase event = some result at h
  unfold result? at h
  split at h
  case h_6 watch _ reply =>
    -- The watch has just failed, and nobody hears of it.
    split at h
    · next hs => cases h; simp [step, stepLeaving, hs]
    · cases h
  case h_8 watch _ =>
    split at h
    · cases h
    · next hu => cases h; simp [step, stepLeaving, hu]
  case h_11 => cases h
  all_goals cases h; rfl

theorem prepare_cases (s : SupervisorSettings) (p : Progress source) (candidate : Candidate)
    {phase : Phase} {event : SupervisorEvent}
    (h : phase = .discovering ∧ event = .discovered (.ok candidate) ∧ s.verify = false ∨
      phase = .verifying candidate ∧ event = .verified (.ok ())) :
    ∃ next calls, Move s phase event next calls ∧ prepare s p candidate = (⟨p, next⟩, calls) := by
  unfold prepare
  split
  · next hw => exact ⟨_, _, .read candidate phase event h hw, rfl⟩
  · next hw => exact ⟨_, _, .registerAtOnce candidate phase event h (by simpa using hw), rfl⟩

theorem stepConnected_cases (s : SupervisorSettings) (p : Progress source) (link : Link)
    (watch : Option Watch) {event : SupervisorEvent}
    (hr : result? (.connected link watch) event = none) :
    ∃ next calls, Move s (.connected link watch) event next calls ∧
      stepConnected s p link watch event = (⟨p, next⟩, calls) := by
  cases event with
  | connectionEnded result =>
    cases watch with
    | none => cases hr
    | some w =>
      cases w with
      | stuck => cases hr
      | _ => exact ⟨_, _, .leave link _ result rfl, rfl⟩
  | looked reading =>
    cases watch with
    | none => exact ⟨_, _, .ignore _ _ rfl, rfl⟩
    | some w => exact ⟨_, _, .watch link w _ _ _ (.look w reading), rfl⟩
  | replied reply =>
    cases watch with
    | none => exact ⟨_, _, .ignore _ _ rfl, rfl⟩
    | some w => exact ⟨_, _, .watch link w _ _ _ (.hear w reply), rfl⟩
  | watchDied =>
    cases watch with
    | none => exact ⟨_, _, .ignore _ _ rfl, rfl⟩
    | some w =>
      cases w with
      | stuck => exact ⟨_, _, .ignore _ _ rfl, rfl⟩
      | _ => exact ⟨_, _, .loseWatch link _ rfl, rfl⟩
  | restartWanted =>
    cases watch with
    | none => exact ⟨_, _, .ignore _ _ rfl, rfl⟩
    | some w =>
      cases w with
      | stuck => exact ⟨_, _, .drop link, rfl⟩
      | _ => exact ⟨_, _, .ignore _ _ rfl, rfl⟩
  | _ => exact ⟨_, _, .ignore _ _ (by cases watch <;> rfl), rfl⟩

theorem stepLeaving_cases (s : SupervisorSettings) (p : Progress source) (link : Link)
    (watch : Watch) (result : AttemptResult) {event : SupervisorEvent}
    (hr : result? (.leaving link watch result) event = none) :
    ∃ next calls, Move s (.leaving link watch result) event next calls ∧
      stepLeaving s p link watch result event = (⟨p, next⟩, calls) := by
  cases event with
  | looked reading =>
    exact ⟨_, _, .finishWatch link watch _ result _ _ (.look watch reading) (fun _ h => nomatch h), rfl⟩
  | replied reply =>
    have hs : (watch.hear reply).1.isStuck = false := by
      simpa [result?] using hr
    refine ⟨_, _, .finishWatch link watch _ result _ _ (.hear watch reply) (fun _ _ => hs), ?_⟩
    simp [stepLeaving, hs, watching, labelCalls]
  | watchDied => cases hr
  | watchStopped =>
    have hu : watch.isUpdating = true := by
      simpa [result?] using hr
    exact ⟨_, _, .ignore _ _ rfl, by simp [stepLeaving, hu, stay]⟩
  | _ => exact ⟨_, _, .ignore _ _ rfl, rfl⟩

/-- **A step is the end of an attempt or one of the moves.** -/
theorem step_cases (s : SupervisorSettings) (state : Supervisor source) (event : SupervisorEvent) :
    (∃ result, result? state.phase event = some result ∧
      step s state event = conclude s state.progress result) ∨
    result? state.phase event = none ∧
      ∃ next calls, Move s state.phase event next calls ∧
        step s state event = (⟨state.progress, next⟩, calls) := by
  cases hr : result? state.phase event with
  | some result => exact .inl ⟨result, rfl, step_of_result s hr⟩
  | none =>
    refine .inr ⟨rfl, ?_⟩
    obtain ⟨p, phase⟩ := state
    change result? phase event = none at hr
    cases phase with
    | discovering =>
      cases event with
      | discovered result =>
        cases result with
        | error cause => cases hr
        | ok candidate =>
          by_cases hv : s.verify = true
          · exact ⟨_, _, .verify candidate hv, by simp [step, hv, go]⟩
          · simp only [Bool.not_eq_true] at hv
            obtain ⟨next, calls, hm, hp⟩ :=
              prepare_cases s p candidate (.inl ⟨rfl, rfl, hv⟩)
            exact ⟨next, calls, hm, by simp [step, hv, hp]⟩
      | _ => exact ⟨_, _, .ignore _ _ rfl, rfl⟩
    | verifying candidate =>
      cases event with
      | verified result =>
        cases result with
        | error cause => cases hr
        | ok _ => exact prepare_cases s p candidate (.inr ⟨rfl, rfl⟩)
      | _ => exact ⟨_, _, .ignore _ _ rfl, rfl⟩
    | readingLabels candidate =>
      cases event with
      | labelsRead reading => exact ⟨_, _, .register candidate reading, rfl⟩
      | _ => exact ⟨_, _, .ignore _ _ rfl, rfl⟩
    | creating candidate contents =>
      cases event with
      | created result =>
        cases result with
        | error cause => cases hr
        | ok name => exact ⟨_, _, .connect candidate contents name, rfl⟩
      | _ => exact ⟨_, _, .ignore _ _ rfl, rfl⟩
    | connected link watch => exact stepConnected_cases s p link watch hr
    | leaving link watch result => exact stepLeaving_cases s p link watch result hr
    | restarting =>
      cases event with
      | restarted result => cases result <;> cases hr
      | _ => exact ⟨_, _, .ignore _ _ rfl, rfl⟩
    | waiting =>
      cases event with
      | slept => exact ⟨_, _, .discover, rfl⟩
      | _ => exact ⟨_, _, .ignore _ _ rfl, rfl⟩
    | finished outcome => exact ⟨_, _, .ignore (.finished outcome) event rfl, by cases event <;> rfl⟩

/-- After an attempt the run is over, or there is a wait. -/
theorem conclude_cases (s : SupervisorSettings) (p : Progress source) (result : AttemptResult) :
    (∃ q outcome, conclude s p result = (⟨q, .finished outcome⟩, [])) ∨
    ∃ q wait, conclude s p result = (⟨q, .waiting⟩, [.sleep wait]) := by
  unfold conclude
  split
  · next outcome q _ => exact .inl ⟨q, outcome, rfl⟩
  · next wait _ q _ => exact .inr ⟨q, wait, rfl⟩

/-! ## Runs -/

/-- **A run of the machine** along events: the state after them, and the calls in order. -/
def run (s : SupervisorSettings) : Supervisor source → List SupervisorEvent → Step source
  | state, [] => (state, [])
  | state, event :: events =>
    let next := step s state event
    let last := run s next.1 events
    (last.1, next.2 ++ last.2)

variable (s : SupervisorSettings) (state : Supervisor source)

@[simp] theorem run_nil : run s state [] = (state, []) := rfl

theorem run_cons (event : SupervisorEvent) (events : List SupervisorEvent) :
    run s state (event :: events) =
      ((run s (step s state event).1 events).1,
        (step s state event).2 ++ (run s (step s state event).1 events).2) := rfl

theorem run_append (first later : List SupervisorEvent) :
    run s state (first ++ later) =
      ((run s (run s state first).1 later).1,
        (run s state first).2 ++ (run s (run s state first).1 later).2) := by
  induction first generalizing state with
  | nil => rfl
  | cons event first ih => simp [run_cons, ih, List.append_assoc]

theorem run_concat (events : List SupervisorEvent) (event : SupervisorEvent) :
    run s state (events ++ [event]) =
      ((step s (run s state events).1 event).1,
        (run s state events).2 ++ (step s (run s state events).1 event).2) := by
  simp [run_append, run_cons]

end Supervisor

end NodeAgent
