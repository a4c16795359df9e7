import NodeAgent.Proofs.Supervisor.Baseline

/-!
# A change in place and a restart come to the same

When the label file has a new text, the labels of the node can be changed in place, or the node can be
registered again in a fresh attempt.  With a coordinator that always keeps the managed label on its
nodes, the node has the same labels either way.

## Main definitions

* `KeepsManaged`: what a coordinator does that keeps the managed label on its nodes.
* `Supervisor.Registers`: a fresh attempt that registers the node.

## Main results

* `mem_of_softUpdate`: the labels of a node after a change in place.
* `Supervisor.mem_of_registers`: the labels of a node after a fresh attempt.
* `Supervisor.softUpdate_eq_registers`: the two are the same.
-/

namespace NodeAgent

open Text Dialogue

/-! ## A coordinator that keeps the managed label -/

/-- **What a coordinator does that keeps the managed label on its nodes.**  Every node gets it when it is
created, and none ever loses it. -/
structure KeepsManaged (before : Nodes) (request : Request) (answer : Except HttpError Response)
    (after : Nodes) : Prop extends Keeps IsManaged before request answer after where
  given : Endpoint.createNode.isAt request.url.path = true →
    ∀ response, answer = .ok response → response.isOk = true →
      LabelSet.managed ∈ after (response.finalName (request.field "name"))
  kept : ∀ name, LabelSet.managed ∈ before name → LabelSet.managed ∈ after name

section Coordinator

variable {client : HttpClient} {candidate : Candidate} {name : String} {before after : Nodes}

/-- The managed label stays throughout a dialogue. -/
theorem managed_mem_of_held {α : Type} {d : HttpDialogue α} {result : α}
    (h : Held KeepsManaged before d result after) (hm : LabelSet.managed ∈ before name) :
    LabelSet.managed ∈ after name := by
  induction h with
  | done state result => exact hm
  | ask h _ ih => exact ih (h.kept name hm)

/-- A node that is registered has the managed label. -/
theorem managed_mem_of_held_createNode {r : Registration}
    (h : Held KeepsManaged before (client.createNode candidate r).run (.ok name) after) :
    LabelSet.managed ∈ after name := by
  obtain ⟨asked, request, response, created, hr, hk, hok, rfl, hrest⟩ := sent_of_held_createNode h
  have hname : request.field "name" = r.name := hr.field_eq "name"
  have hgiven := hk.given hr.isAt response rfl hok
  rw [hname] at hgiven
  -- Labels that follow the request do not take the managed one away.
  exact managed_mem_of_held hrest hgiven

/-- Labels that agree but for the managed one, which is there, are known. -/
theorem mem_of_agreeBut_isManaged {labels static : LabelSet} {contents : String}
    (h : labels.AgreeBut IsManaged (static.union (.parse contents)))
    (hm : LabelSet.managed ∈ labels) (l : String) :
    l ∈ labels ↔ l ∈ static ∨ l ∈ words contents ∨ l = LabelSet.managed := by
  by_cases hl : IsManaged l
  · rw [hl]
    exact iff_of_true hm (.inr (.inr rfl))
  · have hne : l ≠ LabelSet.managed := hl
    rw [h l hl, LabelSet.mem_union, LabelSet.mem_parse, or_iff_left hne]

/-- **The labels of a node after a change in place.** -/
theorem mem_of_softUpdate {static : LabelSet} {contents : String}
    (hm : LabelSet.managed ∈ before name)
    (h : Held KeepsManaged before (client.softUpdate candidate name static contents) (.ok ()) after)
    (l : String) : l ∈ after name ↔ l ∈ static ∨ l ∈ words contents ∨ l = LabelSet.managed := by
  apply mem_of_agreeBut_isManaged _ (managed_mem_of_held h hm) l
  -- The change itself spares the managed label, so that it leads to the wanted ones next to it.
  have hkeeps := h.mono fun _ _ _ _ hk => hk.toKeeps
  have hcalls := (held_holdWith.mp hkeeps).mono fun _ _ _ _ => held_labelCall
  exact (Supervisor.leads_softUpdate_text static contents before).goal_of_held hcalls

end Coordinator

/-! ## A fresh attempt -/

namespace Supervisor

/-- **What is heard in an attempt** on the way to the registration of the node. -/
def registrationEvents (s : SupervisorSettings) (candidate : Candidate) (contents : String) :
    List SupervisorEvent :=
  .discovered (.ok candidate) ::
    ((if s.verify then [.verified (.ok ())] else []) ++ [.labelsRead (.ok contents)])

/-- The node is registered with the text that was read. -/
theorem run_registrationEvents {source : Words} {s : SupervisorSettings}
    (hw : s.labelWatch.isSome = true) (p : Progress source) (candidate : Candidate)
    (contents : String) :
    (run s ⟨p, .discovering⟩ (registrationEvents s candidate contents)).2.getLast? =
      some (.create candidate (s.registration.withLabelFile (some contents))) := by
  have hprepare : prepare s p candidate = go p (.readingLabels candidate) .readLabels := if_pos hw
  rw [registrationEvents, run_cons]
  cases hv : s.verify with
  | false =>
    have hstep : step s ⟨p, .discovering⟩ (.discovered (.ok candidate)) = prepare s p candidate :=
      if_neg (by simp [hv])
    rw [hstep, hprepare]
    rfl
  | true =>
    have hstep : step s ⟨p, .discovering⟩ (.discovered (.ok candidate)) =
        go p (.verifying candidate) (.verify candidate) := if_pos hv
    have hverified : step s ⟨p, .verifying candidate⟩ (.verified (.ok ())) =
        prepare s p candidate := rfl
    rw [hstep, if_pos rfl, List.singleton_append]
    simp only [go, run_cons, hverified, hprepare]
    rfl

/-- **A fresh attempt that registers the node** under a name, with the labels at the coordinator then.
The attempt has read a text from the label file. -/
inductive Registers (client : HttpClient) (s : SupervisorSettings) (contents name : String)
    (after : Nodes) : Prop
  | intro {source : Words} {p : Progress source} {candidate asked : Candidate}
      {registration : Registration} {before : Nodes}
      (hcall : (run s ⟨p, .discovering⟩ (registrationEvents s candidate contents)).2.getLast? =
        some (.create asked registration))
      (h : Held KeepsManaged before (client.createNode asked registration).run (.ok name) after) :
      Registers client s contents name after

section Attempt

variable {client : HttpClient} {s : SupervisorSettings} {settings : WatchSettings}
  {contents name : String} {after : Nodes}

/-- **The labels of a node after a fresh attempt.** -/
theorem mem_of_registers (hw : s.labelWatch.isSome = true) (h : Registers client s contents name after)
    (l : String) :
    l ∈ after name ↔ l ∈ s.registration.labels ∨ l ∈ words contents ∨ l = LabelSet.managed := by
  obtain ⟨hcall, h⟩ := h
  rw [run_registrationEvents hw] at hcall
  cases hcall
  -- The registration has the static labels and those of the file, the managed one among them or not.
  apply mem_of_agreeBut_isManaged _ (managed_mem_of_held_createNode h) l
  exact held_createNode (h.mono fun _ _ _ _ hk => hk.toKeeps)

/-- **A change in place and a fresh attempt come to the same.**  With a coordinator that always keeps the
managed label on its nodes, a node whose labels were changed in place has the labels that it would have
after a fresh attempt, whether the labels of the registration go along with its request or follow it. -/
theorem softUpdate_eq_registers {candidate : Candidate} {name' : String} {before after' : Nodes}
    (hw : s.labelWatch = some settings) (hl : s.registration.labels = settings.staticLabels)
    (hm : LabelSet.managed ∈ before name)
    (hu : Held KeepsManaged before (client.softUpdate candidate name settings.staticLabels contents)
      (.ok ()) after)
    (hr : Registers client s contents name' after') : after name = after' name' := by
  have hwatch : s.labelWatch.isSome = true := by rw [hw]; rfl
  apply LabelSet.ext
  intro l
  rw [mem_of_softUpdate hm hu, mem_of_registers hwatch hr, hl]

end Attempt

/-! ## Such a coordinator as a program -/

/-- What the coordinator answers that puts the managed label on all its nodes, and the labels then. -/
def serveManaged (q : Request) : StateM Nodes (Except HttpError Response) :=
  fun nodes => (((serve q).run nodes).1, fun name => (((serve q).run nodes).2 name).add LabelSet.managed)

/-- The program is a coordinator that keeps the managed label on its nodes. -/
theorem keepsManaged_serveManaged (nodes : Nodes) (q : Request) :
    KeepsManaged nodes q ((serveManaged q).run nodes).1 ((serveManaged q).run nodes).2 := by
  have hlabel : IsLabel LabelSet.managed := by decide
  have hmem : ∀ (labels : LabelSet) l,
      l ∈ labels.add LabelSet.managed ↔ l = LabelSet.managed ∨ l ∈ labels :=
    fun labels l => LabelSet.mem_add_of_isLabel hlabel
  refine { toKeeps := (keeps_serve nodes q).of_agreeBut fun name l hl => ?_, given := ?_, kept := ?_ }
  · exact ((hmem _ l).trans (or_iff_right hl)).symm
  · intro _ response _ _
    exact (hmem _ _).mpr (.inl rfl)
  · intro name _
    exact (hmem _ _).mpr (.inl rfl)

/-- One label goes and one comes, and both the static labels and the file may name the managed one. -/
theorem softUpdate_eq_registers_of_file :
    let candidate : Candidate :=
      ⟨{ scheme := "http", authority := some { host := .name "ci" }, path := "/" }, "key"⟩
    let settings : WatchSettings :=
      { path := "/labels", pollInterval := 1000, staticLabels := .parse "linux swarm", argv := [] }
    let s : SupervisorSettings :=
      { registration :=
          { name := "builder", executors := 1, fsRoot := "/", labels := .parse "linux swarm" }
        verify := true
        labelWatch := some settings }
    ∃ after after' : Nodes,
      Held KeepsManaged (fun _ => .parse "linux old swarm")
        (({} : HttpClient).softUpdate candidate "builder" settings.staticLabels "gpu swarm") (.ok ())
        after ∧
      Registers {} s "gpu swarm" "builder" after' ∧ after "builder" = after' "builder" := by
  intro candidate settings s
  have hchanged := held_run keepsManaged_serveManaged
    (({} : HttpClient).softUpdate candidate "builder" settings.staticLabels "gpu swarm")
    fun _ => .parse "linux old swarm"
  have hcreated := held_run keepsManaged_serveManaged
    (({} : HttpClient).createNode candidate (s.registration.withLabelFile (some "gpu swarm"))).run
    fun _ => .parse "linux old swarm"
  have hdone : (((({} : HttpClient).softUpdate candidate "builder" settings.staticLabels
      "gpu swarm").holdWith serveManaged).run fun _ => .parse "linux old swarm").1 = .ok () := by
    decide +kernel
  have hdone' : (((({} : HttpClient).createNode candidate
      (s.registration.withLabelFile (some "gpu swarm"))).run.holdWith serveManaged).run
        fun _ => .parse "linux old swarm").1 = .ok "builder" := by
    decide +kernel
  rw [hdone] at hchanged
  rw [hdone'] at hcreated
  obtain ⟨after, hafter⟩ := Exists.intro _ hchanged
  obtain ⟨after', hafter'⟩ := Exists.intro _ hcreated
  have hregisters : Registers {} s "gpu swarm" "builder" after' :=
    @Registers.intro {} s _ _ _ (.progression 1) ⟨{}, (0 : UInt64)⟩ candidate candidate _ _
      (run_registrationEvents rfl _ candidate "gpu swarm") hafter'
  have hheld : LabelSet.managed ∈ (fun _ => .parse "linux old swarm" : Nodes) "builder" :=
    LabelSet.contains_iff.mp (by decide +kernel)
  exact ⟨after, after', hafter, hregisters, softUpdate_eq_registers rfl rfl hheld hafter hregisters⟩

end Supervisor

end NodeAgent
