import NodeAgent.Proofs.Coordinator.SoftUpdate
import NodeAgent.Proofs.Supervisor.Step
import NodeAgent.Proofs.Text.LowerCase

/-!
# The labels of a node follow the label file

A run is looked at together with the coordinator of the attempt at hand.  The coordinator answers calls
as they come, and it keeps the managed label as it likes.  Calls may fail at any point, and then have any
effect.  The label file may change at any time.

The text that a watch remembers says which labels the node has, from the registration on.

## Main definitions

* `Answers`: what may come back to a call, and the labels at the coordinator then.
* `Scene`, `Scene.Reachable`: a run with its surroundings.
* `Scene.InStep`: the invariant, that the labels of the node are what the watch takes them to be.

## Main results

* `inStep_of_reachable`: the invariant holds throughout a run.
* `labels_follow_file`: the labels of a node between two changes.
-/

namespace NodeAgent

open Text Dialogue

/-- The label that a coordinator keeps as it likes. -/
def IsManaged (l : String) : Prop :=
  l = LabelSet.managed

/-- Whether a set has a label in some case of letters. -/
def LabelSet.HasLowered (labels : LabelSet) (l : String) : Prop :=
  ∃ x ∈ labels, toLower x = l

/-- Texts that mean the same to the watch have the same labels, in some case of letters. -/
theorem hasLowered_parse_of_sameLabels {a b : String} (h : sameLabels a b = true) (l : String) :
    (LabelSet.parse a).HasLowered l ↔ (LabelSet.parse b).HasLowered l := by
  have hmem : ∀ text, (LabelSet.parse text).HasLowered l ↔ l ∈ words (toLower text) := by
    intro text
    rw [words_toLower, List.mem_map]
    simp only [LabelSet.HasLowered, LabelSet.mem_parse]
  rw [hmem, hmem, beq_iff_eq.mp h]

namespace Supervisor

variable {source : Words}

/-! ## Runs with their surroundings -/

/-- **What may come back to a call** of the supervisor, and the labels at the coordinator then. -/
inductive Answers (client : HttpClient) (before : Nodes) :
    SupervisorCall → SupervisorEvent → Nodes → Prop
  /-- The coordinator that is found has labels of its own. -/
  | discovered (result : Except ProtocolError Candidate) (after : Nodes) :
      Answers client before .discover (.discovered result) after
  | created {candidate : Candidate} {registration : Registration} {name : String} {after : Nodes}
      (h : Held (Keeps IsManaged) before (client.createNode candidate registration).run (.ok name)
        after) :
      Answers client before (.create candidate registration) (.created (.ok name)) after
  | notCreated (candidate : Candidate) (registration : Registration) (cause : ProtocolError)
      (after : Nodes) :
      Answers client before (.create candidate registration) (.created (.error cause)) after
  | changed {link : Link} {call : LabelCall} {labels : LabelSet} {after : Nodes}
      (h : Held (Keeps IsManaged) before (client.labelCall link.candidate link.name call).run
        (.ok labels) after) :
      Answers client before (.label link call) (.replied (.ok labels)) after
  | notChanged (link : Link) (call : LabelCall) (cause : ProtocolError) (after : Nodes) :
      Answers client before (.label link call) (.replied (.error cause)) after

/-- Whether an event comes back from a coordinator. -/
def isAnswer : SupervisorEvent → Bool
  | .discovered _ => true
  | .created _ => true
  | .replied _ => true
  | _ => false

/-- **A run with its surroundings.** -/
structure Scene (source : Words) where
  machine : Supervisor source
  /-- The last call, unless it was answered. -/
  pending : Option SupervisorCall
  /-- The labels at the coordinator of the attempt. -/
  nodes : Nodes
  /-- The text of the label file at the last look of the watch, if it could be read. -/
  found : Option String

namespace Scene

/-- What the last look of the watch has found after an event.  A watch looks when it is idle. -/
def foundAfter (scene : Scene source) (event : SupervisorEvent) : Option String :=
  match event, scene.machine.phase.watch? with
  | .looked reading, some (.idle _) => reading.toOption
  | .created _, none => none
  | _, _ => scene.found

/-- The scene after an event. -/
def hear (s : SupervisorSettings) (scene : Scene source) (event : SupervisorEvent)
    (pending : Option SupervisorCall) (nodes : Nodes) : Scene source where
  machine := (step s scene.machine event).1
  pending := (step s scene.machine event).2.getLast?.or pending
  nodes := nodes
  found := scene.foundAfter event

/-- **What may be heard**: the event, the call that is left unanswered, and the labels then. -/
inductive Hears (client : HttpClient) (scene : Scene source) :
    SupervisorEvent → Option SupervisorCall → Nodes → Prop
  | answer {call : SupervisorCall} {event : SupervisorEvent} {nodes : Nodes}
      (hp : scene.pending = some call) (ha : Answers client scene.nodes call event nodes) :
      Hears client scene event none nodes
  | notice {event : SupervisorEvent} (he : isAnswer event = false) :
      Hears client scene event scene.pending scene.nodes
  /-- A watch that breaks down leaves a call half done. -/
  | breakdown (nodes : Nodes) : Hears client scene .watchDied scene.pending nodes

/-- **A run in its surroundings**, up to some point. -/
inductive Reachable (client : HttpClient) (s : SupervisorSettings) : Scene source → Prop
  | start (words : source.State) (nodes : Nodes) :
      Reachable client s ⟨(start words).1, some .discover, nodes, none⟩
  /-- The coordinator puts or drops the managed label by itself. -/
  | own {scene : Scene source} {nodes : Nodes} (h : Reachable client s scene)
      (hn : scene.nodes.AgreeBut IsManaged nodes) :
      Reachable client s { scene with nodes }
  | hear {scene : Scene source} {event : SupervisorEvent} {pending : Option SupervisorCall}
      {nodes : Nodes} (h : Reachable client s scene) (hh : Hears client scene event pending nodes) :
      Reachable client s (scene.hear s event pending nodes)

end Scene

/-! ## The invariant -/

/-- **The labels of the node are what the watch takes them to be**: those of the text that it remembers,
or, during a change, labels that the change leads from to those of its text. -/
def WatchInStep (static : LabelSet) (name : String) (pending : Option SupervisorCall)
    (nodes : Nodes) (found : Option String) : Watch → Prop
  | .idle baseline =>
    (pending = none ∨ ∃ link, pending = some (.connect link)) ∧
      (∀ c ∈ baseline, (nodes name).AgreeBut IsManaged (static.union (.parse c))) ∧
      ∀ r ∈ found, ∃ c ∈ baseline, sameLabels c r = true
  | .updating contents next =>
    found = some contents ∧ ∃ link call, pending = some (.label link call) ∧ link.name = name ∧
      LabelDialogue.Leads IsManaged name
        (fun nodes => (nodes name).AgreeBut IsManaged (static.union (.parse contents)))
        (.ask call next) nodes
  | .stuck => True

/-- **What holds in a phase.** -/
def PhaseInStep (s : SupervisorSettings) (pending : Option SupervisorCall) (nodes : Nodes)
    (found : Option String) : Phase → Prop
  | .creating candidate contents =>
    pending = some (.create candidate (s.registration.withLabelFile contents))
  | .connected link (some watch) => WatchInStep (staticLabels s) link.name pending nodes found watch
  | .leaving link watch _ => WatchInStep (staticLabels s) link.name pending nodes found watch
  | _ => True

/-- **The invariant of a run.** -/
def Scene.InStep (s : SupervisorSettings) (scene : Scene source) : Prop :=
  PhaseInStep s scene.pending scene.nodes scene.found scene.machine.phase

/-! ## What the watch does -/

section Watch

variable {static : LabelSet} {name : String} {pending : Option SupervisorCall} {nodes : Nodes}
  {found : Option String} {watch : Watch}

theorem WatchInStep.own {nodes' : Nodes} (hn : nodes.AgreeBut IsManaged nodes')
    (h : WatchInStep static name pending nodes found watch) :
    WatchInStep static name pending nodes' found watch := by
  cases watch with
  | idle baseline => exact ⟨h.1, fun c hc => (hn name).symm.trans (h.2.1 c hc), h.2.2⟩
  | updating contents next =>
    obtain ⟨hf, link, call, hp, hl, hleads⟩ := h
    exact ⟨hf, link, call, hp, hl, hleads.of_agreeBut hn⟩
  | stuck => trivial

/-- A change that goes on, or is done, leaves the watch in step. -/
theorem watchInStep_proceed {contents : String} {d : LabelDialogue} (link : Link)
    (h : d.Leads IsManaged link.name
      (fun nodes => (nodes link.name).AgreeBut IsManaged (static.union (.parse contents))) nodes) :
    WatchInStep static link.name (labelCalls link (Watch.proceed contents d).2).getLast? nodes
      (some contents) (Watch.proceed contents d).1 := by
  cases d with
  | done result =>
    cases result with
    | ok =>
      refine ⟨.inl rfl, ?_, ?_⟩
      · rintro c ⟨⟩
        exact h
      · rintro r ⟨⟩
        exact ⟨contents, rfl, beq_self_eq_true _⟩
    | error cause => trivial
  | ask call next => exact ⟨rfl, link, call, rfl, rfl, h⟩

/-- **A change of labels leads to those of its text**, next to the managed label. -/
theorem leads_softUpdate_text (static : LabelSet) (contents : String) (nodes : Nodes) :
    (softUpdate static contents).Leads IsManaged name
      (fun nodes => (nodes name).AgreeBut IsManaged (static.union (.parse contents))) nodes := by
  -- The managed label is free, so that it does not matter whether it was there.
  refine (leads_softUpdate static contents nodes).mono fun after h => h.trans fun l hl => ?_
  rw [LabelSet.mem_union, LabelSet.mem_filter, desiredLabels, LabelSet.mem_withoutManaged,
    beq_iff_eq]
  simp only [IsManaged] at hl
  tauto

/-- **A look of an idle watch.** -/
theorem watchInStep_look {link : Link} {baseline : Option String} {reading : Except SystemError String}
    (h : WatchInStep static link.name pending nodes found (.idle baseline)) :
    WatchInStep static link.name
      ((labelCalls link ((Watch.idle baseline).look static reading).2).getLast?.or pending) nodes
      reading.toOption ((Watch.idle baseline).look static reading).1 := by
  unfold Watch.look
  split
  · next hn =>
    -- What was found means what the watch remembers, or the file could not be read.
    refine ⟨h.1, h.2.1, fun r hr => ?_⟩
    rw [Watch.news?, Option.mem_def.mp hr] at hn
    have happlied : Watch.isApplied baseline r = true := by simpa using hn
    rw [Watch.isApplied, Option.any_eq_true] at happlied
    exact happlied
  · next contents hn =>
    have hr : reading.toOption = some contents := Option.eq_some_of_filter_eq_some hn
    rw [hr]
    exact watchInStep_proceed link (leads_softUpdate_text static contents nodes)

/-- **An answer** to the call of a watch that is changing labels. -/
theorem watchInStep_hear {link asked : Link} {call : LabelCall} {reply : LabelReply} {after : Nodes}
    (hp : pending = some (.label asked call))
    (he : call.Effect IsManaged asked.name nodes reply after)
    (h : WatchInStep static link.name pending nodes found watch) :
    WatchInStep static link.name ((labelCalls link (watch.hear reply).2).getLast?.or none) after
      found (watch.hear reply).1 := by
  cases watch with
  | idle baseline =>
    -- An idle watch has asked for nothing.
    obtain ⟨hsettled | ⟨_, hconnect⟩, -⟩ := h
    · cases hp.symm.trans hsettled
    · cases hp.symm.trans hconnect
  | updating contents next =>
    obtain ⟨hf, asked', call', hp', hname, hleads⟩ := h
    cases hp.symm.trans hp'
    rw [hname] at he
    rw [Option.or_none, hf]
    exact watchInStep_proceed link (hleads reply after he)
  | stuck => trivial

/-- Nothing that is asked while a watch is idle is answered by the coordinator, and what a watch asks is
answered by a reply. -/
theorem WatchInStep.replied_of_answers {client : HttpClient} {call : SupervisorCall}
    {event : SupervisorEvent} {after : Nodes} (hp : pending = some call)
    (ha : Answers client nodes call event after)
    (h : WatchInStep static name pending nodes found watch) (hs : watch.isStuck = false) :
    ∃ reply, event = .replied reply := by
  cases watch with
  | idle baseline =>
    obtain ⟨hsettled | ⟨_, hconnect⟩, -⟩ := h
    · cases hp.symm.trans hsettled
    · cases hp.symm.trans hconnect
      cases ha
  | updating contents next =>
    obtain ⟨-, asked, call', hp', -⟩ := h
    cases hp.symm.trans hp'
    cases ha with
    | changed _ => exact ⟨_, rfl⟩
    | notChanged _ _ cause => exact ⟨_, rfl⟩
  | stuck => cases hs

end Watch

/-! ## What is heard -/

namespace Scene.Hears

variable {client : HttpClient} {scene : Scene source} {pending : Option SupervisorCall}
  {nodes : Nodes}

/-- An event that neither answers a call nor ends a watch leaves everything else as it was. -/
theorem of_notice {event : SupervisorEvent} (h : scene.Hears client event pending nodes)
    (he : isAnswer event = false) (hd : event ≠ .watchDied) :
    pending = scene.pending ∧ nodes = scene.nodes := by
  cases h with
  | answer hp ha => cases ha <;> cases he
  | notice _ => exact ⟨rfl, rfl⟩
  | breakdown _ => exact absurd rfl hd

theorem of_replied {reply : LabelReply} (h : scene.Hears client (.replied reply) pending nodes) :
    pending = none ∧ ∃ asked call, scene.pending = some (.label asked call) ∧
      call.Effect IsManaged asked.name scene.nodes reply nodes := by
  cases h with
  | answer hp ha =>
    cases ha with
    | changed h => exact ⟨rfl, _, _, hp, held_labelCall h⟩
    | notChanged _ call cause => exact ⟨rfl, _, call, hp, by cases call <;> trivial⟩
  | notice he => cases he

theorem of_created {name : String} (h : scene.Hears client (.created (.ok name)) pending nodes) :
    pending = none ∧ ∃ candidate registration,
      scene.pending = some (.create candidate registration) ∧
        (nodes name).AgreeBut IsManaged registration.labels := by
  cases h with
  | answer hp ha =>
    cases ha with
    | created h => exact ⟨rfl, _, _, hp, held_createNode h⟩
  | notice he => cases he

end Scene.Hears

/-! ## The run -/

section Run

variable {client : HttpClient} {s : SupervisorSettings} {scene : Scene source}
  {event : SupervisorEvent} {pending : Option SupervisorCall} {nodes : Nodes}

/-- A watch in step stays so when nothing is made of an event. -/
theorem WatchInStep.unheard {static : LabelSet} {name : String} {watch : Watch}
    {found : Option String} (h : WatchInStep static name scene.pending scene.nodes found watch)
    (hh : scene.Hears client event pending nodes) (hr : ∀ reply, event ≠ .replied reply)
    (hd : event = .watchDied → watch.isStuck = true) :
    WatchInStep static name pending nodes found watch := by
  cases hs : watch.isStuck with
  | true =>
    cases watch with
    | stuck => trivial
    | _ => cases hs
  | false =>
    cases hh with
    | answer hp ha =>
      obtain ⟨reply, rfl⟩ := h.replied_of_answers hp ha hs
      exact absurd rfl (hr reply)
    | notice _ => exact h
    | breakdown _ => exact absurd (hd rfl) (by simp [hs])

/-- **What a watch makes of an event** leaves it in step. -/
theorem WatchInStep.move {link : Link} {watch next : Watch} {call? : Option LabelCall}
    (hw : scene.machine.phase.watch? = some watch)
    (h : WatchInStep (staticLabels s) link.name scene.pending scene.nodes scene.found watch)
    (hh : scene.Hears client event pending nodes)
    (hm : WatchMove (staticLabels s) watch event next call?) :
    WatchInStep (staticLabels s) link.name ((labelCalls link call?).getLast?.or pending) nodes
      (scene.foundAfter event) next := by
  cases hm with
  | look reading =>
    obtain ⟨rfl, rfl⟩ := hh.of_notice rfl (by simp)
    simp only [Scene.foundAfter, hw]
    cases watch with
    | idle baseline => exact watchInStep_look h
    | _ => exact h
  | hear reply =>
    obtain ⟨rfl, asked, call, hp, he⟩ := hh.of_replied
    exact watchInStep_hear hp he h

/-- **A node that is registered** has the labels of the text that the registration was made from. -/
theorem inStep_connect {candidate : Candidate} {contents : Option String} {name : String}
    (hl : s.labelWatch.isSome = true → s.registration.labels = staticLabels s)
    (hp : scene.pending = some (.create candidate (s.registration.withLabelFile contents)))
    (hh : scene.Hears client (.created (.ok name)) pending nodes) :
    PhaseInStep s (some (.connect ⟨candidate, name⟩)) nodes none
      (.connected ⟨candidate, name⟩ (s.labelWatch.map fun _ => .idle contents)) := by
  obtain ⟨-, candidate', registration, hp', hn⟩ := hh.of_created
  cases hp.symm.trans hp'
  cases hw : s.labelWatch with
  | none => trivial
  | some settings =>
    refine ⟨.inr ⟨_, rfl⟩, ?_, fun r hr => nomatch hr⟩
    rintro c ⟨⟩
    rw [← hl (by rw [hw]; rfl)]
    exact hn

/-- What a phase with a watch does not take up. -/
theorem of_not_takesUp {phase : Phase} {watch : Watch} (hw : phase.watch? = some watch)
    (hr : result? phase event = none) (ht : takesUp phase event = false) :
    (∀ reading, event ≠ .looked reading) ∧ (∀ reply, event ≠ .replied reply) ∧
      (event = .watchDied → watch.isStuck = true) := by
  cases phase with
  | connected link watch? =>
    cases hw
    refine ⟨?_, ?_, ?_⟩
    · rintro reading rfl
      cases ht
    · rintro reply rfl
      cases ht
    · rintro rfl
      simpa [takesUp] using ht
  | leaving link watch result =>
    refine ⟨?_, ?_, ?_⟩
    · rintro reading rfl
      cases ht
    · rintro reply rfl
      cases ht
    · rintro rfl
      cases hr
  | _ => cases hw

/-- An event that is not taken up changes nothing that matters. -/
theorem inStep_ignore {phase : Phase} (hphase : scene.machine.phase = phase)
    (h : PhaseInStep s scene.pending scene.nodes scene.found phase)
    (hh : scene.Hears client event pending nodes) (hr : result? phase event = none)
    (ht : takesUp phase event = false) :
    PhaseInStep s pending nodes (scene.foundAfter event) phase := by
  have hwatch : ∀ name watch, phase.watch? = some watch →
      WatchInStep (staticLabels s) name scene.pending scene.nodes scene.found watch →
      WatchInStep (staticLabels s) name pending nodes (scene.foundAfter event) watch := by
    intro name watch hw hin
    obtain ⟨hlook, hreply, hdied⟩ := of_not_takesUp hw hr ht
    have hfound : scene.foundAfter event = scene.found := by
      unfold Scene.foundAfter
      rw [hphase, hw]
      split
      · exact absurd rfl (hlook _)
      · next hnone => cases hnone
      · rfl
    rw [hfound]
    exact hin.unheard hh hreply hdied
  cases phase with
  | creating candidate contents =>
    cases hh with
    | answer hp ha =>
      -- The answer to the call that is pending would be taken up.
      cases hp.symm.trans h
      cases ha <;> cases ht
    | notice _ => exact h
    | breakdown _ => exact h
  | connected link watch? =>
    cases watch? with
    | none => trivial
    | some watch => exact hwatch link.name watch rfl h
  | leaving link watch result => exact hwatch link.name watch rfl h
  | _ => trivial

/-- **An event takes the run from one state to another that is in step.** -/
theorem inStep_hear (hl : s.labelWatch.isSome = true → s.registration.labels = staticLabels s)
    (h : scene.InStep s) (hh : scene.Hears client event pending nodes) :
    (scene.hear s event pending nodes).InStep s := by
  rcases step_cases s scene.machine event with ⟨result, -, hstep⟩ | ⟨hr, next, calls, hm, hstep⟩
  · -- At the end of an attempt nothing is left of the watch.
    rw [Scene.InStep, Scene.hear, hstep]
    rcases conclude_cases s scene.machine.progress result with ⟨q, outcome, hc⟩ | ⟨q, wait, hc⟩
    · rw [hc]
      trivial
    · rw [hc]
      trivial
  · rw [Scene.InStep, Scene.hear, hstep]
    change PhaseInStep s (calls.getLast?.or pending) nodes (scene.foundAfter event) next
    rw [Scene.InStep] at h
    generalize hphase : scene.machine.phase = phase at hm h hr
    cases hm with
    | verify candidate hv => trivial
    | read candidate _ _ hf hw => trivial
    | registerAtOnce candidate _ _ hf hw => rfl
    | register candidate reading => rfl
    | connect candidate contents name =>
      -- The watch starts with the text that the registration was made from.
      have hfound : scene.foundAfter (.created (.ok name)) = none := by
        simp only [Scene.foundAfter, hphase, Phase.watch?]
      rw [hfound]
      exact inStep_connect hl h hh
    | watch link watch next _ call? hw =>
      exact WatchInStep.move (by rw [hphase]; rfl) h hh hw
    | loseWatch link watch hs => trivial
    | drop link => trivial
    | leave link watch result hs =>
      exact WatchInStep.unheard h hh (by simp) (by simp)
    | finishWatch link watch next result _ call? hw hn =>
      exact WatchInStep.move (by rw [hphase]; rfl) h hh hw
    | discover => trivial
    | ignore phase event ht => exact inStep_ignore hphase h hh hr ht

/-- **Every state of a run is in step.** -/
theorem inStep_of_reachable
    (hl : s.labelWatch.isSome = true → s.registration.labels = staticLabels s)
    (h : scene.Reachable client s) : scene.InStep s := by
  -- The induction is on the run: one case for the coordinator by itself, one for what is heard.
  induction h with
  | start words nodes => trivial
  | @own scene nodes _ hn ih =>
    rw [Scene.InStep] at ih ⊢
    cases hphase : scene.machine.phase with
    | connected link watch? =>
      cases watch? with
      | none => trivial
      | some watch =>
        rw [hphase] at ih
        exact WatchInStep.own hn ih
    | leaving link watch result =>
      rw [hphase] at ih
      exact WatchInStep.own hn ih
    | creating candidate contents =>
      rw [hphase] at ih
      exact ih
    | _ => trivial
  | hear _ hh ih => exact inStep_hear hl ih hh

end Run

/-- Labels made from texts that mean the same to the watch agree, in some case of letters. -/
theorem hasLowered_of_agreeBut {labels static : LabelSet} {c r l : String}
    (h : labels.AgreeBut IsManaged (static.union (.parse c))) (hs : sameLabels c r = true)
    (hl : l ≠ LabelSet.managed) :
    labels.HasLowered l ↔ (static.union (.parse r)).HasLowered l := by
  have hparse := hasLowered_parse_of_sameLabels hs l
  -- The managed label is in lower case already, so that no label other than it becomes free.
  have hm : toLower LabelSet.managed = LabelSet.managed := by decide
  constructor
  · rintro ⟨x, hx, rfl⟩
    have hfree : ¬ IsManaged x := by
      rintro rfl
      exact hl hm
    rcases LabelSet.mem_union.mp ((h x hfree).mp hx) with hx | hx
    · exact ⟨x, LabelSet.mem_union.mpr (.inl hx), rfl⟩
    · obtain ⟨y, hy, he⟩ := hparse.mp ⟨x, hx, rfl⟩
      exact ⟨y, LabelSet.mem_union.mpr (.inr hy), he⟩
  · have hback : ∀ y ∈ static.union (.parse c), toLower y = l → labels.HasLowered l := by
      rintro y hy rfl
      have hfree : ¬ IsManaged y := by
        rintro rfl
        exact hl hm
      exact ⟨y, (h y hfree).mpr hy, rfl⟩
    rintro ⟨x, hx, he⟩
    rcases LabelSet.mem_union.mp hx with hx | hx
    · exact hback x (LabelSet.mem_union.mpr (.inl hx)) he
    · obtain ⟨y, hy, he⟩ := hparse.mpr ⟨x, hx, he⟩
      exact hback y (LabelSet.mem_union.mpr (.inr hy)) he

/-- **The labels of a node follow the label file.**  Between two changes, the labels at the coordinator
are those that stay and those of the text that the watch remembers, apart from the managed label.  If the
last look could read the file, they are those that stay and those of the text it found, apart from the
managed label and the case of letters. -/
theorem labels_follow_file {client : HttpClient} {s : SupervisorSettings} {settings : WatchSettings}
    {scene : Scene source} (hw : s.labelWatch = some settings)
    (hl : s.registration.labels = settings.staticLabels) (h : scene.Reachable client s)
    {link : Link} {baseline : Option String}
    (hp : scene.machine.phase = .connected link (some (.idle baseline)) ∨
      ∃ result, scene.machine.phase = .leaving link (.idle baseline) result) :
    (∀ c, baseline = some c →
      (scene.nodes link.name).AgreeBut IsManaged (settings.staticLabels.union (.parse c))) ∧
    ∀ r, scene.found = some r → ∀ l, l ≠ LabelSet.managed →
      ((scene.nodes link.name).HasLowered l ↔
        (settings.staticLabels.union (.parse r)).HasLowered l) := by
  have hstatic : staticLabels s = settings.staticLabels := by rw [staticLabels, hw]; rfl
  have hin := inStep_of_reachable (fun _ => hl.trans hstatic.symm) h
  rw [Scene.InStep] at hin
  have hidle : WatchInStep settings.staticLabels link.name scene.pending scene.nodes scene.found
      (.idle baseline) := by
    rw [← hstatic]
    rcases hp with hp | ⟨result, hp⟩
    · rw [hp] at hin
      exact hin
    · rw [hp] at hin
      exact hin
  refine ⟨hidle.2.1, fun r hr l hm => ?_⟩
  obtain ⟨c, hc, hs⟩ := hidle.2.2 r hr
  exact hasLowered_of_agreeBut (hidle.2.1 c hc) hs hm

/-- A node registers with a text that was written in another case of letters later. -/
theorem labels_follow_file_of_other_case :
    let candidate : Candidate :=
      ⟨{ scheme := "http", authority := some { host := .name "ci" }, path := "/" }, "key"⟩
    let s : SupervisorSettings :=
      { registration := { name := "builder", executors := 1, fsRoot := "/", labels := .parse "linux" }
        verify := false
        labelWatch := some
          { path := "/labels", pollInterval := 1000, staticLabels := .parse "linux", argv := [] } }
    ∃ scene : Scene (.progression 1), scene.Reachable {} s ∧
      scene.machine.phase = .connected ⟨candidate, "builder"⟩ (some (.idle (some "gpu"))) ∧
      scene.found = some "GPU" ∧
      (scene.nodes "builder").AgreeBut IsManaged ((LabelSet.parse "linux").union (.parse "gpu")) ∧
      ∀ l, l ≠ LabelSet.managed → ((scene.nodes "builder").HasLowered l ↔
        ((LabelSet.parse "linux").union (.parse "GPU")).HasLowered l) := by
  intro candidate s
  have hcreate := @held_serve IsManaged _
    (({} : HttpClient).createNode candidate (s.registration.withLabelFile (some "gpu"))).run
    fun _ => .empty
  have hdone : (((({} : HttpClient).createNode candidate
      (s.registration.withLabelFile (some "gpu"))).run.holdWith serve).run fun _ => .empty).1 =
        .ok "builder" := by
    decide +kernel
  rw [hdone] at hcreate
  obtain ⟨after, hafter⟩ := Exists.intro _ hcreate
  have hstart := @Scene.Reachable.start (.progression 1) {} s (0 : UInt64) fun _ => .empty
  have hfound := hstart.hear (.answer rfl (.discovered (.ok candidate) fun _ => .empty))
  have hread := hfound.hear (@Scene.Hears.notice _ _ _ (.labelsRead (.ok "gpu")) rfl)
  have hcreated := hread.hear (.answer rfl (.created hafter))
  have hlooked := hcreated.hear (@Scene.Hears.notice _ _ _ (.looked (.ok "GPU")) rfl)
  have hlabels := labels_follow_file rfl rfl hlooked (.inl rfl)
  exact ⟨_, hlooked, rfl, rfl, hlabels.1 _ rfl, hlabels.2 _ rfl⟩

end Supervisor

end NodeAgent
