import NodeAgent.Proofs.Supervisor.FailedChange
import NodeAgent.Proofs.Supervisor.History

/-!
# Attempts do not overlap

An attempt finds a coordinator, checks it if that is wanted, registers the node and connects it, in this
order, and each stage waits for the success of the one before.  Labels are changed under the name that
the coordinator settled on, at the coordinator that the attempt has found, and by one watch at a time:
whatever the watch and the connection do, another attempt begins only after the last call of the watch
is settled.

## Main definitions

* `Found`, `Registered`: what an attempt has achieved.
* `Over`: whether an attempt has failed, or its connection has ended.
* `Due`: whether it is time for a call, in view of what has happened.
* `GoesByAttempts`: the promise about a run.
* `Stands`: the invariant, that a phase reflects what has happened.
* `Conclusion`: how an attempt comes to its result.

## Main results

* `stands_step`: the invariant is preserved, and the calls of a step are due.
* `attempts_do_not_overlap`: the promise is kept.
-/

namespace NodeAgent

namespace Supervisor

variable {source : Words} (s : SupervisorSettings)

/-! ## The promise -/

/-- The stages up to the registration: a coordinator is found, and checked if that is wanted. -/
def path (candidate : Candidate) : List SupervisorCall :=
  .discover :: if s.verify then [.verify candidate] else []

/-- **A coordinator is found**, and checked if that is wanted. -/
structure Found (attempt : List Entry) (candidate : Candidate) : Prop where
  discovered : Answered attempt .discover (.discovered (.ok candidate))
  verified : s.verify = true → Answered attempt (.verify candidate) (.verified (.ok ()))

/-- **The node is registered** at the coordinator that was found, under the name that came back. -/
structure Registered (attempt : List Entry) (link : Link) : Prop where
  found : Found s attempt link.candidate
  created : ∃ registration,
    Answered attempt (.create link.candidate registration) (.created (.ok link.name))

/-- Whether an answer is the end of an attempt. -/
def ends : SupervisorCall → SupervisorEvent → Bool
  | .discover, .discovered (.error _) => true
  | .verify _, .verified (.error _) => true
  | .create .., .created (.error _) => true
  | .connect _, .connectionEnded _ => true
  | .restart _, .restarted (.error _) => true
  | _, _ => false

/-- **Whether an attempt is over**: a stage has failed, the connection has ended, or the node could not
be restarted. -/
def Over (attempt : List Entry) : Prop :=
  ∃ call event, Answered attempt call event ∧ ends call event = true

/-- **Whether it is time for a call**, in view of what has happened before. -/
inductive Due (before : List Entry) : SupervisorCall → Prop
  | first (h : before = []) : Due before .discover
  /-- Another attempt follows when the last one is over and no call of its watch is under way. -/
  | again (ended : Over (currentAttempt before)) (quiet : Quiet before) : Due before .discover
  | verify (candidate : Candidate) (wanted : s.verify = true)
      (stages_eq : stages (currentAttempt before) = [.discover])
      (discovered : Answered (currentAttempt before) .discover (.discovered (.ok candidate))) :
      Due before (.verify candidate)
  | create (candidate : Candidate) (registration : Registration)
      (stages_eq : stages (currentAttempt before) = path s candidate)
      (found : Found s (currentAttempt before) candidate) :
      Due before (.create candidate registration)
  | connect (link : Link) (registration : Registration)
      (stages_eq : stages (currentAttempt before) =
        path s link.candidate ++ [.create link.candidate registration])
      (registered : Registered s (currentAttempt before) link) : Due before (.connect link)
  /-- The watch waits for the answer to one call before it makes another. -/
  | label (link : Link) (call : LabelCall) (registered : Registered s (currentAttempt before) link)
      (quiet : Quiet before) : Due before (.label link call)
  | disconnect (link : Link) (registered : Registered s (currentAttempt before) link)
      (connected : Awaits (currentAttempt before) (.connect link)) : Due before (.disconnect link)
  | readLabels : Due before .readLabels
  | restart (argv : List String) : Due before (.restart argv)
  | sleep (seconds : UInt64) : Due before (.sleep seconds)

/-- **A run goes by attempts.** -/
structure GoesByAttempts (history : List Entry) : Prop where
  /-- The stages of each attempt are gone through in order, up to some point. -/
  stages_isPrefix : ∀ before after, history = before ++ after → ∃ candidate registration name,
    stages (currentAttempt before) <+: path s candidate ++
      [.create candidate registration, .connect ⟨candidate, name⟩]
  /-- Each call is made when it is time for it. -/
  due : ∀ before call after, history = before ++ .called call :: after → Due s before call

/-! ## What an attempt has achieved stays -/

section Attempts

variable {s} {attempt history : List Entry}

theorem Found.append {candidate : Candidate} (h : Found s attempt candidate) (later : List Entry) :
    Found s (attempt ++ later) candidate where
  discovered := h.discovered.append later
  verified hv := (h.verified hv).append later

theorem Registered.append {link : Link} (h : Registered s attempt link) (later : List Entry) :
    Registered s (attempt ++ later) link where
  found := h.found.append later
  created := by
    obtain ⟨registration, hcreated⟩ := h.created
    exact ⟨registration, hcreated.append later⟩

theorem Over.append (h : Over attempt) (later : List Entry) : Over (attempt ++ later) := by
  obtain ⟨call, event, hanswered, hends⟩ := h
  exact ⟨call, event, hanswered.append later, hends⟩

/-- **If calls are made when it is time for them, the stages are gone through in order.** -/
theorem stages_isPrefix_of_due
    (h : ∀ before call after, history = before ++ .called call :: after → Due s before call) :
    ∃ candidate registration name, stages (currentAttempt history) <+: path s candidate ++
      [.create candidate registration, .connect ⟨candidate, name⟩] := by
  induction history using List.reverseRecOn with
  | nil => exact ⟨default, s.registration, default, List.nil_prefix⟩
  | append_singleton history entry ih =>
    obtain ⟨candidate, registration, name, hstages⟩ :=
      ih fun before call after heq => h before call (after ++ [entry]) (by simp [heq])
    cases entry with
    | heard event =>
      rw [stages_concat_heard]
      exact ⟨candidate, registration, name, hstages⟩
    | called call =>
      by_cases hdiscover : call = .discover
      · rw [hdiscover, currentAttempt_discover]
        exact ⟨candidate, registration, name, List.prefix_append _ _⟩
      · rw [stages_concat_called history hdiscover]
        cases h history call [] rfl with
        | first | again => exact absurd rfl hdiscover
        | verify found wanted heq _ =>
          refine ⟨found, registration, name, ?_⟩
          rw [heq, path, if_pos wanted]
          exact List.prefix_append _ _
        | create found new heq _ =>
          refine ⟨found, new, name, ?_⟩
          rw [heq, List.prefix_append_right_inj]
          exact List.prefix_append _ _
        | connect link new heq _ =>
          refine ⟨link.candidate, new, link.name, ?_⟩
          rw [heq, List.append_assoc]
          exact List.prefix_rfl
        | label | disconnect | readLabels | restart | sleep =>
          refine ⟨candidate, registration, name, ?_⟩
          simpa [isStage] using hstages

/-! ## The invariant -/

/-- The call whose answer a phase waits for. -/
def pending? (s : SupervisorSettings) : Phase → Option SupervisorCall
  | .discovering => some .discover
  | .verifying candidate => some (.verify candidate)
  | .creating candidate contents =>
    some (.create candidate (s.registration.withLabelFile contents))
  | .connected link _ => some (.connect link)
  | .restarting => some (.restart (restartArgv s))
  | _ => none

/-- Whether the watch of a phase is in the middle of a change. -/
def isUpdating (phase : Phase) : Bool :=
  phase.watch?.any Watch.isUpdating

/-- What an attempt has achieved when it has come to a phase. -/
def Reached (s : SupervisorSettings) (attempt : List Entry) : Phase → Prop
  | .discovering => stages attempt = [.discover]
  | .verifying candidate => s.verify = true ∧ stages attempt = [.discover, .verify candidate] ∧
      Answered attempt .discover (.discovered (.ok candidate))
  | .readingLabels candidate => stages attempt = path s candidate ∧ Found s attempt candidate
  | .creating candidate contents =>
    stages attempt = path s candidate ++
        [.create candidate (s.registration.withLabelFile contents)] ∧
      Found s attempt candidate
  | .connected link _ => Registered s attempt link
  | .leaving link _ _ => Registered s attempt link ∧ Over attempt
  | .waiting => Over attempt
  | .restarting => True
  | .finished _ => True

/-- **The phase reflects what has happened.** -/
structure Stands (s : SupervisorSettings) (history : List Entry) (phase : Phase) : Prop where
  reached : Reached s (currentAttempt history) phase
  pending : ∀ call ∈ pending? s phase, Awaits (currentAttempt history) call
  quiet : isUpdating phase = false → Quiet history

theorem Reached.append {phase : Phase} (h : Reached s attempt phase) {later : List Entry}
    (hl : stages later = []) : Reached s (attempt ++ later) phase := by
  have hstages : stages (attempt ++ later) = stages attempt := by
    rw [stages_append, hl, List.append_nil]
  cases phase with
  | discovering => exact hstages.trans h
  | verifying => exact ⟨h.1, hstages.trans h.2.1, h.2.2.append later⟩
  | readingLabels => exact ⟨hstages.trans h.1, h.2.append later⟩
  | creating => exact ⟨hstages.trans h.1, h.2.append later⟩
  | connected => exact Registered.append h later
  | leaving => exact ⟨h.1.append later, h.2.append later⟩
  | waiting => exact Over.append h later
  | restarting => trivial
  | finished => trivial

/-! ## Steps -/

section Steps

variable {state : Supervisor source} {phase next : Phase} {event : SupervisorEvent}

/-- A call that is made at once when a coordinator is found. -/
theorem prepare_calls_ne_nil (s : SupervisorSettings) (p : Progress source) (candidate : Candidate) :
    (prepare s p candidate).2 ≠ [] := by
  unfold prepare
  split <;> exact List.cons_ne_nil _ _

/-- **An event that changes nothing is not the one that is waited for.** -/
theorem not_settles_of_still (hr : result? state.phase event = none)
    (hstep : step s state event = (state, [])) :
    ∀ call ∈ pending? s state.phase, settles call event = false := by
  obtain ⟨p, phase⟩ := state
  rintro call hcall
  cases phase with
  | discovering =>
    cases hcall
    cases event with
    | discovered result =>
      cases result with
      | error cause => cases hr
      | ok candidate =>
        have hcalls := congrArg Prod.snd hstep
        simp only [step] at hcalls
        split at hcalls
        · cases hcalls
        · exact absurd hcalls (prepare_calls_ne_nil s p candidate)
    | _ => rfl
  | verifying candidate =>
    cases hcall
    cases event with
    | verified result =>
      cases result with
      | error cause => cases hr
      | ok _ => exact absurd (congrArg Prod.snd hstep) (prepare_calls_ne_nil s p candidate)
    | _ => rfl
  | creating candidate contents =>
    cases hcall
    cases event with
    | created result =>
      cases result with
      | error cause => cases hr
      | ok name => cases congrArg Prod.snd hstep
    | _ => rfl
  | connected link watch =>
    cases hcall
    cases event with
    | connectionEnded result =>
      cases watch with
      | none => cases hr
      | some watch =>
        cases watch with
        | stuck => cases hr
        | _ => cases congrArg (·.1.phase) hstep
    | _ => rfl
  | restarting =>
    cases hcall
    cases event with
    | restarted result => cases result <;> cases hr
    | _ => rfl
  | _ => cases hcall

/-- **How an attempt comes to its result**: by the answer that its phase waits for, or by the end of a
watch that outlasts the connection. -/
inductive Conclusion (s : SupervisorSettings) : Phase → SupervisorEvent → AttemptResult → Prop
  | answered {phase : Phase} {event : SupervisorEvent} {result : AttemptResult}
      {call : SupervisorCall} (pending : call ∈ pending? s phase)
      (settles_eq : settles call event = true) (ends_eq : ends call event = true)
      (still : isUpdating phase = false) : Conclusion s phase event result
  | restarted : Conclusion s .restarting (.restarted (.ok ())) .restarted
  | failed (link : Link) (watch : Watch) (result : AttemptResult) (reply : LabelReply) :
      Conclusion s (.leaving link watch result) (.replied reply) result
  | died (link : Link) (watch : Watch) (result : AttemptResult) :
      Conclusion s (.leaving link watch result) .watchDied result
  | stopped (link : Link) (watch : Watch) (result : AttemptResult) (still : watch.isUpdating = false) :
      Conclusion s (.leaving link watch result) .watchStopped result

theorem conclusion_of_result (s : SupervisorSettings) {result : AttemptResult}
    (hr : result? phase event = some result) : Conclusion s phase event result := by
  cases phase with
  | discovering =>
    cases event with
    | discovered answer =>
      cases answer with
      | ok candidate => cases hr
      | error cause => exact .answered rfl rfl rfl rfl
    | _ => cases hr
  | verifying candidate =>
    cases event with
    | verified answer =>
      cases answer with
      | ok _ => cases hr
      | error cause => exact .answered rfl rfl rfl rfl
    | _ => cases hr
  | creating candidate contents =>
    cases event with
    | created answer =>
      cases answer with
      | ok name => cases hr
      | error cause => exact .answered rfl rfl rfl rfl
    | _ => cases hr
  | connected link watch? =>
    cases event with
    | connectionEnded answer =>
      -- A watch that still runs is waited for, and the attempt goes on.
      cases watch? with
      | none => exact .answered rfl rfl rfl rfl
      | some watch =>
        cases watch with
        | stuck => exact .answered rfl rfl rfl rfl
        | _ => cases hr
    | _ => simp [result?] at hr
  | leaving link watch earlier =>
    cases event with
    | replied reply =>
      have heq : earlier = result := Option.some.inj (Option.ite_none_right_eq_some.mp hr).2
      exact heq ▸ .failed link watch earlier reply
    | watchDied =>
      have heq : earlier = result := Option.some.inj hr
      exact heq ▸ .died link watch earlier
    | watchStopped =>
      obtain ⟨hstill, heq⟩ := Option.ite_none_left_eq_some.mp hr
      exact Option.some.inj heq ▸ .stopped link watch earlier (Bool.not_eq_true _ ▸ hstill)
    | _ => cases hr
  | restarting =>
    cases event with
    | restarted answer =>
      cases answer with
      | ok _ => cases hr; exact .restarted
      | error cause => exact .answered rfl rfl rfl rfl
    | _ => cases hr
  | _ => cases hr

/-- **The end of an attempt** leaves it over, unless a restart succeeds. -/
theorem over_of_result (h : Stands s history phase) {result : AttemptResult}
    (hr : result? phase event = some result) (hne : result ≠ .restarted) :
    Over (currentAttempt history ++ [.heard event]) := by
  cases conclusion_of_result s hr with
  | answered pending settles_eq ends_eq _ =>
    exact ⟨_, event, (h.pending _ pending).answered settles_eq [], ends_eq⟩
  | restarted => exact absurd rfl hne
  | failed | died | stopped => exact h.reached.2.append _

/-- The last call of a watch is settled when the attempt ends. -/
theorem quiet_of_result (h : Stands s history phase) {result : AttemptResult}
    (hr : result? phase event = some result) : Quiet (history ++ [.heard event]) := by
  cases conclusion_of_result s hr with
  | answered _ _ _ still => exact (h.quiet still).append (by simp)
  | restarted => exact (h.quiet rfl).append (by simp)
  | failed | died => exact quiet_of_settles history fun _ _ => rfl
  | stopped _ _ _ still => exact (h.quiet still).append (by simp)

/-- A watch that makes a call is in the middle of a change. -/
theorem isUpdating_proceed {contents : String} {dialogue : LabelDialogue} :
    (Watch.proceed contents dialogue).1.isUpdating = (Watch.proceed contents dialogue).2.isSome := by
  cases dialogue with
  | done result => cases result <;> rfl
  | ask call next => rfl

/-- **What a watch does with an event.**  It lets the event pass, or the event is the answer that it
waits for, or it was waiting for none; and then it waits exactly if it makes a call. -/
theorem WatchMove.cases_quiet {static : LabelSet} {watch after : Watch} {call? : Option LabelCall}
    (h : WatchMove static watch event after call?) :
    after = watch ∧ call? = none ∨
      ((∃ reply, event = .replied reply) ∨ watch.isUpdating = false) ∧
        after.isUpdating = call?.isSome := by
  cases h with
  | look reading =>
    unfold Watch.look
    cases hnews : watch.news? reading with
    | none => exact .inl ⟨rfl, rfl⟩
    | some contents =>
      refine .inr ⟨.inr ?_, isUpdating_proceed⟩
      cases watch with
      | idle => rfl
      | _ => cases hnews
  | hear reply =>
    cases watch with
    | updating contents next => exact .inr ⟨.inl ⟨reply, rfl⟩, isUpdating_proceed⟩
    | _ => exact .inl ⟨rfl, rfl⟩

/-- Before a watch makes a call, and after a watch stops waiting, no call of it is under way. -/
theorem WatchMove.quiet {static : LabelSet} {watch after : Watch} {call? : Option LabelCall}
    (h : WatchMove static watch event after call?) (hquiet : watch.isUpdating = false → Quiet history)
    (hafter : after.isUpdating = false ∨ call?.isSome = true) :
    Quiet (history ++ [.heard event]) := by
  rcases h.cases_quiet with ⟨rfl, rfl⟩ | ⟨⟨reply, rfl⟩ | hw, -⟩
  · refine (hquiet (hafter.resolve_right ?_)).append (by simp)
    exact Bool.false_ne_true
  · exact quiet_of_settles history fun _ _ => rfl
  · exact (hquiet hw).append (by simp)

/-- Calls that are made one after the other, each when it is time for it. -/
def AllDue (s : SupervisorSettings) : List Entry → List SupervisorCall → Prop
  | _, [] => True
  | history, call :: later => Due s history call ∧ AllDue s (history ++ [.called call]) later

theorem currentAttempt_heard (history : List Entry) (event : SupervisorEvent) :
    currentAttempt (history ++ [.heard event]) = currentAttempt history ++ [.heard event] :=
  currentAttempt_append history (by simp)

/-- **A call brings the attempt to a phase**, and its answer is what the phase waits for. -/
theorem Stands.of_called {call : SupervisorCall} (hdiscover : call ≠ .discover)
    (hlabel : ∀ link question, call ≠ .label link question)
    (hreached : Reached s (currentAttempt history ++ [.called call]) phase)
    (hpending : ∀ pending ∈ pending? s phase, pending = call) (hquiet : Quiet history) :
    Stands s (history ++ [.called call]) phase := by
  have hattempt : currentAttempt (history ++ [.called call]) =
      currentAttempt history ++ [.called call] :=
    currentAttempt_append history (by simpa using hdiscover.symm)
  refine ⟨hattempt ▸ hreached, fun pending hcall => ?_, fun _ => hquiet.append ?_⟩
  · rw [hpending pending hcall, hattempt]
    exact awaits_called _ call
  · intro link question hmem
    exact hlabel link question (Entry.called.inj (List.mem_singleton.mp hmem)).symm

/-- A coordinator is found by the answer that is waited for. -/
theorem Stands.found (h : Stands s history phase) {candidate : Candidate}
    (hanswer : phase = .discovering ∧ event = .discovered (.ok candidate) ∧ s.verify = false ∨
      phase = .verifying candidate ∧ event = .verified (.ok ())) :
    stages (currentAttempt (history ++ [.heard event])) = path s candidate ∧
      Found s (currentAttempt (history ++ [.heard event])) candidate := by
  rw [stages_concat_heard, currentAttempt_heard]
  rcases hanswer with ⟨rfl, rfl, hverify⟩ | ⟨rfl, rfl⟩
  · have hstages : stages (currentAttempt history) = [.discover] := h.reached
    refine ⟨by rw [hstages, path, hverify]; rfl, (h.pending _ rfl).answered rfl [], ?_⟩
    intro hwanted
    rw [hverify] at hwanted
    cases hwanted
  · obtain ⟨hverify, hstages, hdiscovered⟩ := h.reached
    refine ⟨by rw [hstages, path, if_pos hverify], hdiscovered.append _, fun _ => ?_⟩
    exact (h.pending _ rfl).answered rfl []

/-- To ask for the registration of the node is the next stage when a coordinator is found. -/
theorem stands_create {candidate : Candidate} (contents : Option String)
    (hstages : stages (currentAttempt history) = path s candidate)
    (hfound : Found s (currentAttempt history) candidate) (hquiet : Quiet history) :
    let call := SupervisorCall.create candidate (s.registration.withLabelFile contents)
    AllDue s history [call] ∧
      Stands s (history ++ [.called call]) (.creating candidate contents) := by
  refine ⟨⟨.create candidate _ hstages hfound, trivial⟩, .of_called (by simp) (by simp) ?_ ?_ hquiet⟩
  · refine ⟨?_, hfound.append _⟩
    rw [stages_append, hstages]
    rfl
  · intro pending hpending
    exact (Option.some.inj hpending).symm

/-- The watch of a connected node, or of one whose connection has ended, takes up an event. -/
theorem WatchMove.allDue {static : LabelSet} {watch after : Watch} {call? : Option LabelCall}
    (h : WatchMove static watch event after call?) {link : Link}
    (hregistered : Registered s (currentAttempt history) link)
    (hquiet : watch.isUpdating = false → Quiet history) :
    AllDue s (history ++ [.heard event]) (labelCalls link call?) := by
  cases call? with
  | none => trivial
  | some call =>
    refine ⟨.label link call ?_ (h.quiet hquiet (.inr rfl)), trivial⟩
    rw [currentAttempt_heard]
    exact hregistered.append _

theorem WatchMove.quiet_after {static : LabelSet} {watch after : Watch} {call? : Option LabelCall}
    (h : WatchMove static watch event after call?) {link : Link}
    (hquiet : watch.isUpdating = false → Quiet history) (hafter : after.isUpdating = false) :
    Quiet (history ++ [.heard event] ++ (labelCalls link call?).map .called) := by
  have hnone : call? = none := by
    rcases h.cases_quiet with ⟨-, hnone⟩ | ⟨-, hsome⟩
    · exact hnone
    · rw [hafter] at hsome
      exact Option.isNone_iff_eq_none.mp (Option.isSome_eq_false_iff.mp hsome.symm)
  rw [hnone]
  exact (h.quiet hquiet (.inl hafter)).append (by simp [labelCalls])

/-- The calls of a watch are no stages, and settle nothing. -/
theorem currentAttempt_labelCalls (history : List Entry) (event : SupervisorEvent) (link : Link)
    (call? : Option LabelCall) :
    currentAttempt (history ++ [.heard event] ++ (labelCalls link call?).map .called) =
      currentAttempt history ++ (.heard event :: (labelCalls link call?).map .called) := by
  rw [List.append_assoc]
  exact currentAttempt_append history (by cases call? <;> simp [labelCalls])

/-- While the node is connected, the watch may go on. -/
theorem WatchMove.stands_connected {watch after : Watch} {call? : Option LabelCall} {link : Link}
    (hmove : WatchMove (staticLabels s) watch event after call?)
    (h : Stands s history (.connected link (some watch))) :
    Stands s (history ++ [.heard event] ++ (labelCalls link call?).map .called)
      (.connected link (some after)) where
  reached := by
    have hregistered : Registered s (currentAttempt history) link := h.reached
    rw [currentAttempt_labelCalls]
    exact hregistered.append _
  pending call hcall := by
    obtain rfl : .connect link = call := Option.some.inj hcall
    have hother : settles (.connect link) event = false := by cases hmove <;> rfl
    rw [currentAttempt_labelCalls]
    refine (h.pending _ rfl).append fun heard hheard => ?_
    rcases List.mem_cons.mp hheard with hheard | hheard
    · rw [Entry.heard.inj hheard]
      exact hother
    · obtain ⟨_, -, hcalled⟩ := List.mem_map.mp hheard
      cases hcalled
  quiet := hmove.quiet_after h.quiet

/-- After the end of the connection, the watch may go on with its change. -/
theorem WatchMove.stands_leaving {watch after : Watch} {call? : Option LabelCall} {link : Link}
    {result : AttemptResult} (hmove : WatchMove (staticLabels s) watch event after call?)
    (h : Stands s history (.leaving link watch result)) :
    Stands s (history ++ [.heard event] ++ (labelCalls link call?).map .called)
      (.leaving link after result) where
  reached := by
    obtain ⟨hregistered, hover⟩ := h.reached
    rw [currentAttempt_labelCalls]
    exact ⟨hregistered.append _, hover.append _⟩
  pending _ hcall := nomatch hcall
  quiet := hmove.quiet_after h.quiet

/-- An event that is not waited for changes nothing. -/
theorem Stands.heard (h : Stands s history phase)
    (hstill : ∀ call ∈ pending? s phase, settles call event = false) :
    Stands s (history ++ [.heard event]) phase where
  reached := by
    rw [currentAttempt_heard]
    exact h.reached.append rfl
  pending call hcall := by
    rw [currentAttempt_heard]
    refine (h.pending call hcall).append fun heard hheard => ?_
    rw [Entry.heard.inj (List.mem_singleton.mp hheard)]
    exact hstill call hcall
  quiet hwatch := (h.quiet hwatch).append (by simp)

/-- **A move is made when it is time for it**, and the next phase reflects what has happened. -/
theorem Move.stands {calls : List SupervisorCall} (hmove : Move s phase event next calls)
    (h : Stands s history phase)
    (hstill : next = phase → calls = [] → ∀ call ∈ pending? s phase, settles call event = false) :
    AllDue s (history ++ [.heard event]) calls ∧
      Stands s (history ++ [.heard event] ++ calls.map .called) next := by
  have hattempt := currentAttempt_heard history event
  have hstages := stages_concat_heard history event
  -- Where no watch is in the middle of a change, its calls are settled.
  have hquiet : isUpdating phase = false → Quiet (history ++ [.heard event]) :=
    fun hwatch => (h.quiet hwatch).append (by simp)
  cases hmove with
  | verify candidate wanted =>
    have hreached : stages (currentAttempt history) = [.discover] := h.reached
    rw [← hstages] at hreached
    have hdiscovered : Answered (currentAttempt (history ++ [.heard (.discovered (.ok candidate))]))
        .discover (.discovered (.ok candidate)) := by
      rw [hattempt]
      exact (h.pending _ rfl).answered rfl []
    refine ⟨⟨.verify candidate wanted hreached hdiscovered, trivial⟩, ?_⟩
    refine .of_called (by simp) (by simp) ⟨wanted, ?_, hdiscovered.append _⟩ ?_ (hquiet rfl)
    · rw [stages_append, hreached]
      rfl
    · intro pending hpending
      exact (Option.some.inj hpending).symm
  | read candidate _ _ hanswer hwatch =>
    obtain ⟨hpath, hfound⟩ := h.found hanswer
    have hnone : isUpdating phase = false := by rcases hanswer with ⟨rfl, -⟩ | ⟨rfl, -⟩ <;> rfl
    refine ⟨⟨.readLabels, trivial⟩, .of_called (by simp) (by simp) ⟨?_, hfound.append _⟩ ?_
      (hquiet hnone)⟩
    · rw [stages_append, hpath]
      exact List.append_nil _
    · exact fun _ hpending => nomatch hpending
  | registerAtOnce candidate _ _ hanswer hwatch =>
    obtain ⟨hpath, hfound⟩ := h.found hanswer
    have hnone : isUpdating phase = false := by rcases hanswer with ⟨rfl, -⟩ | ⟨rfl, -⟩ <;> rfl
    exact stands_create none hpath hfound (hquiet hnone)
  | register candidate reading =>
    obtain ⟨hpath, hfound⟩ := h.reached
    rw [← hstages] at hpath
    exact stands_create reading.toOption hpath (hattempt ▸ hfound.append _) (hquiet rfl)
  | connect candidate contents name =>
    obtain ⟨hpath, hfound⟩ := h.reached
    rw [← hstages] at hpath
    have hregistered : Registered s (currentAttempt (history ++ [.heard (.created (.ok name))]))
        ⟨candidate, name⟩ := by
      rw [hattempt]
      exact ⟨hfound.append _, _, (h.pending _ rfl).answered rfl []⟩
    refine ⟨⟨.connect ⟨candidate, name⟩ _ hpath hregistered, trivial⟩, ?_⟩
    refine .of_called (by simp) (by simp) (hregistered.append _) ?_ (hquiet rfl)
    intro pending hpending
    exact (Option.some.inj hpending).symm
  | watch link watch after _ call? hmove =>
    exact ⟨hmove.allDue h.reached h.quiet, hmove.stands_connected h⟩
  | finishWatch link watch after result _ call? hmove _ =>
    exact ⟨hmove.allDue h.reached.1 h.quiet, hmove.stands_leaving h⟩
  | loseWatch link watch hwatch =>
    have hheard : Stands s (history ++ [.heard .watchDied]) (.connected link (some watch)) := by
      refine h.heard fun call hcall => ?_
      obtain rfl : .connect link = call := Option.some.inj hcall
      rfl
    rw [List.map_nil, List.append_nil]
    exact ⟨trivial, hheard.reached, hheard.pending, fun _ => quiet_of_settles history fun _ _ => rfl⟩
  | drop link =>
    have hregistered : Registered s (currentAttempt history) link := h.reached
    have hawaits : Awaits (currentAttempt (history ++ [.heard .restartWanted])) (.connect link) := by
      rw [hattempt]
      exact (h.pending _ rfl).append (by simp [settles])
    refine ⟨⟨.disconnect link (hattempt ▸ hregistered.append _) hawaits, .restart _, trivial⟩, ?_⟩
    -- The connection is dropped first, and then the restart is what is waited for.
    have hsplit : [SupervisorCall.disconnect link, .restart (restartArgv s)].map Entry.called =
        [.called (.disconnect link)] ++ [.called (.restart (restartArgv s))] := rfl
    rw [hsplit, ← List.append_assoc]
    refine .of_called (by simp) (by simp) trivial ?_ ((hquiet rfl).append (by simp))
    exact fun _ hcall => (Option.some.inj hcall).symm
  | leave link watch result hwatch =>
    have hregistered : Registered s (currentAttempt history) link := h.reached
    have hover : Over (currentAttempt history ++ [.heard (.connectionEnded result)]) :=
      ⟨.connect link, .connectionEnded result, (h.pending _ rfl).answered rfl [], rfl⟩
    rw [List.map_nil, List.append_nil]
    refine ⟨trivial, ?_, fun _ hcall => (nomatch hcall), hquiet⟩
    rw [hattempt]
    exact ⟨hregistered.append _, hover⟩
  | discover =>
    have hover : Over (currentAttempt history) := h.reached
    rw [List.map_singleton]
    refine ⟨⟨.again ?_ (hquiet rfl), trivial⟩, ?_, ?_, fun _ => (hquiet rfl).append (by simp)⟩
    · rw [hattempt]
      exact hover.append _
    · rw [currentAttempt_discover]
      rfl
    · intro call hcall
      rw [currentAttempt_discover, ← Option.some.inj hcall]
      exact awaits_called [] .discover
  | ignore _ _ _ =>
    refine ⟨trivial, ?_⟩
    rw [List.map_nil, List.append_nil]
    exact h.heard (hstill rfl rfl)

/-- **The invariant is preserved, and the calls of a step are due.** -/
theorem stands_step (h : Stands s history state.phase) (event : SupervisorEvent) :
    AllDue s (history ++ [.heard event]) (step s state event).2 ∧
      Stands s (history ++ [.heard event] ++ (step s state event).2.map .called)
        (step s state event).1.phase := by
  rcases step_cases s state event with ⟨result, hr, he⟩ | ⟨hr, next, calls, hmove, he⟩ <;> rw [he]
  · have hquiet := quiet_of_result h hr
    rcases conclude_cases s state.progress result with ⟨q, outcome, hc⟩ | ⟨q, wait, hc⟩ <;> rw [hc]
    · rw [List.map_nil, List.append_nil]
      exact ⟨trivial, trivial, fun _ hcall => (nomatch hcall), fun _ => hquiet⟩
    · -- A restart that succeeds is the end of the run.
      have hne : result ≠ .restarted := by
        rintro rfl
        cases congrArg (·.1.phase) hc
      have hover := over_of_result h hr hne
      rw [← currentAttempt_heard] at hover
      refine ⟨⟨.sleep wait, trivial⟩, .of_called (by simp) (by simp) (hover.append _) ?_ hquiet⟩
      exact fun _ hcall => nomatch hcall
  · refine hmove.stands h ?_
    rintro rfl rfl
    exact not_settles_of_still hr he

end Steps

/-! ## Runs -/

/-- Every call of a history is made when it is time for it. -/
def DueThroughout (s : SupervisorSettings) (history : List Entry) : Prop :=
  ∀ before call after, history = before ++ .called call :: after → Due s before call

theorem DueThroughout.concat (h : DueThroughout s history) {entry : Entry}
    (hentry : ∀ call, entry = .called call → Due s history call) :
    DueThroughout s (history ++ [entry]) := by
  intro before call after heq
  rcases List.eq_nil_or_concat after with rfl | ⟨after, last, rfl⟩
  · obtain ⟨rfl, hlast⟩ := List.append_inj' heq rfl
    exact hentry call (List.cons.inj hlast).1
  · have hsplit : history ++ [entry] = (before ++ .called call :: after) ++ [last] := by
      simpa using heq
    obtain ⟨rfl, -⟩ := List.append_inj' hsplit rfl
    exact h before call after rfl

theorem DueThroughout.append (h : DueThroughout s history) {calls : List SupervisorCall}
    (hcalls : AllDue s history calls) : DueThroughout s (history ++ calls.map .called) := by
  induction calls generalizing history with
  | nil => simpa using h
  | cons call calls ih =>
    obtain ⟨hdue, hlater⟩ := hcalls
    have hfirst : DueThroughout s (history ++ [.called call]) :=
      h.concat fun _ heq => Entry.called.inj heq ▸ hdue
    simpa using ih hfirst hlater

end Attempts

/-- **Throughout a run** the phase reflects what has happened, and calls are due. -/
theorem stands_run (s : SupervisorSettings) (words : source.State) (events : List SupervisorEvent) :
    DueThroughout s (history s words events) ∧
      Stands s (history s words events) (run s (start words).1 events).1.phase := by
  induction events using List.reverseRecOn with
  | nil =>
    have hnil : DueThroughout s [] := fun before _ _ heq => by cases before <;> cases heq
    have hfirst : AllDue s [] [.discover] := ⟨.first rfl, trivial⟩
    have hquiet : Quiet ([] ++ [.called .discover]) := quiet_nil.append (by simp)
    refine ⟨hnil.append hfirst, rfl, fun call hcall => ?_, fun _ => hquiet⟩
    obtain rfl : .discover = call := Option.some.inj hcall
    exact awaits_called [] .discover
  | append_singleton events event ih =>
    obtain ⟨hdue, hstands⟩ := ih
    obtain ⟨hcalls, hnext⟩ := stands_step hstands event
    have hheard : DueThroughout s (history s words events ++ [.heard event]) :=
      hdue.concat fun _ heq => nomatch heq
    rw [history_concat, run_concat, ← List.singleton_append, ← List.append_assoc]
    exact ⟨hheard.append hcalls, hnext⟩

/-- **Attempts do not overlap.**  A run goes by attempts, each at one coordinator and under one name, and
when it is over nothing is called any more. -/
theorem attempts_do_not_overlap (s : SupervisorSettings) (words : source.State)
    (events : List SupervisorEvent) :
    GoesByAttempts s (history s words events) ∧
      ∀ outcome, (run s (start words).1 events).1.phase = .finished outcome →
        ∀ later, calls (history s words (events ++ later)) = calls (history s words events) := by
  obtain ⟨hdue, -⟩ := stands_run s words events
  refine ⟨⟨?_, hdue⟩, ?_⟩
  · rintro before after heq
    refine stages_isPrefix_of_due fun before' call after' heq' => hdue before' call (after' ++ after) ?_
    rw [heq, heq']
    simp
  · intro outcome hfinished later
    rw [calls_history, calls_history, run_append, run_of_finished s later hfinished, List.append_nil]

/-- The coordinator gives the node another name, and the connection ends while labels are changed. -/
theorem attempts_do_not_overlap_of_rename :
    let s : SupervisorSettings :=
      { registration := { name := "n", executors := 1, fsRoot := "/", labels := .empty }
        verify := true
        noRetryAfterConnected := true
        labelWatch := some
          { path := "/labels", pollInterval := 1000, staticLabels := .empty, argv := ["agent"] } }
    let link : Link := ⟨default, "n-2"⟩
    let first : List SupervisorEvent :=
      [.discovered (.ok default), .verified (.ok ()), .labelsRead (.error ⟨.notFound, .plain⟩),
        .created (.ok "n-2"), .looked (.ok "linux"), .connectionEnded (.ok ())]
    let rest : List SupervisorEvent := [.replied (.ok .empty), .replied (.ok .empty), .watchStopped]
    let words : (Words.progression 1).State := (0 : UInt64)
    (run s (start words).1 (first ++ rest)).1.phase = .finished (.ok .disconnected) ∧
      Registered s (currentAttempt (history s words first ++ [.heard (.replied (.ok .empty))])) link ∧
      ∀ later, calls (history s words (first ++ rest ++ later)) =
        calls (history s words (first ++ rest)) := by
  intro s link first rest words
  obtain ⟨hgoes, hfinal⟩ := attempts_do_not_overlap s words (first ++ rest)
  have hfinished : (run s (start words).1 (first ++ rest)).1.phase =
      .finished (.ok .disconnected) := rfl
  refine ⟨hfinished, ?_, hfinal _ hfinished⟩
  -- The watch gives a label after the end of the connection.
  have hdue := hgoes.due (history s words first ++ [.heard (.replied (.ok .empty))])
    (.label link (.add (.parse "linux"))) [.heard (.replied (.ok .empty)), .heard .watchStopped] rfl
  cases hdue with
  | label _ _ hregistered _ => exact hregistered

end Supervisor

end NodeAgent
