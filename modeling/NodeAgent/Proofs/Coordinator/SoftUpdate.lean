import NodeAgent.Proofs.Coordinator.Keeper

/-!
# A change of labels over the wire

A change of labels takes away what the node has and gives what it wants, in chunks and over the wire.
When it succeeds, the node has the wanted labels, and of the others at most the one that the coordinator
manages by itself.

## Main definitions

* `LabelDialogue.Leads`: a change that leads to a goal whenever it succeeds.
* `Request.MakesOnly`: a request that makes no other change than a given one.

## Main results

* `leads_softUpdate`: what a change of labels leads to.
* `softUpdate_over_wire`: the same over the wire, and the order of its requests.
-/

namespace NodeAgent

open Text Dialogue

/-! ## What a change leads to -/

/-- **A change that leads to a goal** whenever it succeeds, whatever happens on the way. -/
def LabelDialogue.Leads (free : String → Prop) (name : String) (goal : Nodes → Prop) :
    LabelDialogue → Nodes → Prop
  | .done (.ok ()), nodes => goal nodes
  | .done (.error _), _ => True
  | .ask call next, nodes =>
    ∀ reply after, call.Effect free name nodes reply after → Leads free name goal (next reply) after

section Leads

variable {free : String → Prop} {name : String} {before after : Nodes} {goal : Nodes → Prop}

/-- A change that succeeds reaches its goal. -/
theorem LabelDialogue.Leads.goal_of_held {d : LabelDialogue} (hl : d.Leads free name goal before)
    (h : Held (fun s q a s' => q.Effect free name s a s') before d (.ok ()) after) : goal after := by
  generalize hr : Except.ok () = result at h
  -- The result is kept apart, so that the induction is on the dialogue that was held.
  induction h with
  | done state result =>
    subst hr
    exact hl
  | ask h _ ih => exact ih (hl _ _ h) hr

theorem LabelDialogue.Leads.mono {goal' : Nodes → Prop} (hg : ∀ nodes, goal nodes → goal' nodes)
    {d : LabelDialogue} (h : d.Leads free name goal before) : d.Leads free name goal' before := by
  induction d generalizing before with
  | done result =>
    cases result with
    | ok => exact hg before h
    | error cause => trivial
  | ask call next ih => exact fun reply after he => ih reply (h reply after he)

/-- The free labels do not matter to a change that is going on. -/
theorem LabelDialogue.Leads.of_agreeBut {before' : Nodes} (hb : before.AgreeBut free before')
    {call : LabelCall} {next : LabelReply → LabelDialogue}
    (h : LabelDialogue.Leads free name goal (.ask call next) before) :
    LabelDialogue.Leads free name goal (.ask call next) before' :=
  fun reply after he => h reply after (he.of_agreeBut hb)

open LabelSet

/-- To give the wanted labels leads to having them. -/
theorem leads_giveLabels {held : LabelSet} (hb : (before name).AgreeBut free held)
    (desired : LabelSet) :
    (giveLabels desired).Leads free name (fun nodes => (nodes name).AgreeBut free (held.union desired))
      before := by
  unfold giveLabels
  split
  · next he =>
    refine hb.trans fun l _ => ?_
    rw [mem_union]
    exact (or_iff_left (isEmpty_iff.mp he l)).symm
  · intro reply after heffect
    cases reply with
    | error cause => trivial
    | ok _ => exact heffect.trans (hb.union (.refl desired))

/-- **What a change of labels leads to**: the wanted labels, next to the managed one if it was there. -/
theorem leads_softUpdate (static : LabelSet) (contents : String) (before : Nodes) :
    (softUpdate static contents).Leads free name (fun nodes => (nodes name).AgreeBut free
      (((before name).filter (· == managed)).union (desiredLabels static contents))) before := by
  intro reply between hget
  cases reply with
  | error cause => trivial
  | ok held =>
    obtain ⟨hsame, hheld⟩ := hget
    -- Without what is taken away, the managed label is all that is left.
    have hrest : ((between name).diff held.withoutManaged).AgreeBut free
        ((before name).filter (· == managed)) := by
      intro l hl
      rw [mem_diff, mem_withoutManaged, mem_filter, ← hsame name l hl, ← hheld l hl, beq_iff_eq]
      tauto
    change (swapLabels held.withoutManaged (desiredLabels static contents)).Leads _ _ _ between
    unfold swapLabels
    split
    · next he =>
      have hnone : (between name).AgreeBut free ((between name).diff held.withoutManaged) := by
        intro l _
        rw [mem_diff]
        exact (and_iff_left (isEmpty_iff.mp he l)).symm
      -- There is nothing to take away, so that what is held is left over already.
      exact leads_giveLabels (hnone.trans hrest) _
    · intro reply after hremove
      cases reply with
      | error cause => trivial
      | ok _ => exact leads_giveLabels (AgreeBut.trans hremove hrest) _

end Leads

/-! ## The requests of a change -/

/-- **A request that makes no other change** than one with certain labels. -/
def Request.MakesOnly (q : Request) (change : LabelChange) (labels : LabelSet) : Prop :=
  ∀ other : LabelChange, other.endpoint.isAt q.url.path = true →
    other = change ∧ ∀ l ∈ words (q.field "labels"), l ∈ labels

section Requests

variable {q : Request} {change : LabelChange} {labels : LabelSet}

/-- A request for a place where labels do not change makes no change. -/
theorem Request.MakesOnly.of_isFor {e : Endpoint} {fields : List (String × String)}
    (h : q.IsFor e fields) (he : e ≠ .addLabels ∧ e ≠ .removeLabels) : q.MakesOnly change labels := by
  intro other ho
  have heq : other.endpoint = e := Endpoint.eq_of_isAt ho h.isAt
  cases other with
  | adding => exact absurd heq.symm he.1
  | removing => exact absurd heq.symm he.2

theorem Request.MakesOnly.of_chunk {name secret chunk : String} (hc : chunk ∈ labels.chunks)
    (h : q.IsFor change.endpoint [("name", name), ("secret", secret), ("labels", chunk)]) :
    q.MakesOnly change labels := by
  have hlabels : q.field "labels" = chunk := h.field_eq "labels"
  intro other ho
  -- A path leads to one place only, and each change has its own.
  have heq : other.endpoint = change.endpoint := Endpoint.eq_of_isAt ho h.isAt
  refine ⟨?_, fun l hl => ?_⟩
  · cases other <;> cases change <;> first | rfl | cases heq
  · rw [← LabelSet.mem_toList, ← labels.words_chunks]
    exact List.mem_flatMap.mpr ⟨chunk, hc, hlabels ▸ hl⟩

variable {client : HttpClient} {candidate : Candidate} {name : String}
  {answers : List (Except HttpError Response)}

open Exchange

theorem isFor_of_fetchCrumb {base : Url} :
    ∀ q ∈ (client.fetchCrumb base).questions answers,
      q.IsFor .crumb [("xpath", crumbExpression)] := by
  unfold HttpClient.fetchCrumb
  split
  · intro q hq
    rw [questions_done] at hq
    cases hq
  · next url hu =>
    have hc := Request.IsFor.of_request hu client .get [("xpath", crumbExpression)]
      (List.cons_ne_nil _ _)
    refine forall_questions_bind (fun q hq => ?_) fun answer later q hq => ?_
    · cases answers with
      | nil =>
        obtain rfl := List.mem_singleton.mp hq
        exact hc
      | cons answer answers =>
        rw [Dialogue.question, questions_ask_cons, questions_done] at hq
        obtain rfl := List.mem_singleton.mp hq
        exact hc
    · cases later <;> cases hq

/-- A request that changes something goes out behind one for a crumb. -/
theorem isFor_of_sendChange {base : Url} {request : Request} {e : Endpoint}
    {fields : List (String × String)} (hr : request.IsFor e fields) :
    ∀ q ∈ (client.sendChange base request).run.questions answers,
      q.IsFor .crumb [("xpath", crumbExpression)] ∨ q.IsFor e fields := by
  refine forall_requests_bind (forall_requests_lift fun q hq => .inl (isFor_of_fetchCrumb q hq)) ?_
  intro crumb? later
  refine forall_requests_ofExcept_bind fun request' hw => forall_requests_send (.inr ?_)
  exact hr.withCrumb (mapError_eq_ok.mp hw)

theorem makesOnly_of_sendChunks {url : Url} (hu : change.endpoint.on candidate.url = .ok url)
    {chunks : List String} (hc : ∀ chunk ∈ chunks, chunk ∈ labels.chunks) :
    ∀ q ∈ (client.sendChunks candidate url change name chunks).run.questions answers,
      q.MakesOnly change labels := by
  induction chunks generalizing answers with
  | nil => exact forall_requests_pure ()
  | cons chunk chunks ih =>
    -- A chunk makes two requests: one for a crumb, and the change itself.
    have hchunk : ∀ q ∈ (client.sendChunk candidate url change name chunk).run.questions answers,
        q.MakesOnly change labels := by
      refine forall_requests_bind (fun q hq => ?_) fun response later => ?_
      · have hr := Request.IsFor.of_request hu client .post
          [("name", name), ("secret", candidate.secret), ("labels", chunk)] (List.cons_ne_nil _ _)
        rcases isFor_of_sendChange hr q hq with h | h
        · exact .of_isFor h (by decide)
        · exact .of_chunk (hc chunk List.mem_cons_self) h
      · split
        · exact forall_requests_fail _
        · exact forall_requests_pure ()
    exact forall_requests_bind hchunk fun _ later => ih fun c hm => hc c (List.mem_cons_of_mem _ hm)

/-- **A change of labels makes no other one.** -/
theorem makesOnly_of_changeLabels :
    ∀ q ∈ (client.changeLabels candidate change name labels).run.questions answers,
      q.MakesOnly change labels :=
  forall_requests_ofExcept_bind fun _ hu => makesOnly_of_sendChunks hu fun _ hm => hm

/-- A question for labels changes none. -/
theorem isFor_of_getLabels :
    ∀ q ∈ (client.getLabels candidate name).run.questions answers,
      ∃ fields, q.IsFor .getLabels fields := by
  refine forall_requests_ofExcept_bind fun url hu => ?_
  have hr := Request.IsFor.of_request hu client .get
    [("name", name), ("secret", candidate.secret)] (List.cons_ne_nil _ _)
  refine forall_requests_bind ?_ fun text later => forall_requests_pure _
  refine forall_requests_bind (forall_requests_send ⟨_, hr⟩) fun response later => ?_
  refine forall_requests_ofExcept_bind fun body _ => ?_
  split
  · exact forall_requests_fail _
  · split
    · exact forall_requests_fail _
    · exact forall_requests_fail _
    · exact forall_requests_pure _

/-! ## The order of the requests -/

/-- A request that takes labels away does not come behind one that gives some. -/
def RemovesFirst (q q' : Request) : Prop :=
  Endpoint.addLabels.isAt q.url.path = true → Endpoint.removeLabels.isAt q'.url.path = false

theorem Request.MakesOnly.not_removing (h : q.MakesOnly .adding labels) :
    Endpoint.removeLabels.isAt q.url.path = false :=
  Bool.eq_false_iff.mpr fun hr => nomatch (h .removing hr).1

theorem Request.MakesOnly.not_adding (h : q.MakesOnly .removing labels) :
    Endpoint.addLabels.isAt q.url.path = false :=
  Bool.eq_false_iff.mpr fun ha => nomatch (h .adding ha).1

/-- Requests that do not give labels come in any order, as do those that do not take any away. -/
theorem pairwise_removesFirst {qs : List Request}
    (h : (∀ q ∈ qs, Endpoint.addLabels.isAt q.url.path = false) ∨
      ∀ q ∈ qs, Endpoint.removeLabels.isAt q.url.path = false) : qs.Pairwise RemovesFirst := by
  rcases h with h | h
  · exact List.pairwise_of_forall_mem_list fun q hq _ _ ha => absurd ha (by simp [h q hq])
  · exact List.pairwise_of_forall_mem_list fun _ _ q' hq' _ => h q' hq'

/-- The calls of a change of labels, as exchanges. -/
abbrev overWire (client : HttpClient) (candidate : Candidate) (name : String) (call : LabelCall) :
    HttpDialogue LabelReply :=
  (client.labelCall candidate name call).run

theorem makesOnly_of_add :
    ∀ q ∈ (overWire client candidate name (.add labels)).questions answers,
      q.MakesOnly .adding labels :=
  forall_requests_bind makesOnly_of_changeLabels fun _ _ => forall_requests_pure _

theorem makesOnly_of_remove :
    ∀ q ∈ (overWire client candidate name (.remove labels)).questions answers,
      q.MakesOnly .removing labels :=
  forall_requests_bind makesOnly_of_changeLabels fun _ _ => forall_requests_pure _

/-- Behind the last call of a change there is no request. -/
theorem questions_afterSuccess (reply : LabelReply) :
    ((LabelDialogue.afterSuccess (.done (.ok ())) reply).holdWith
      (overWire client candidate name)).questions answers = [] := by
  cases reply <;> exact questions_done _ _

theorem makesOnly_of_giveLabels (desired : LabelSet) :
    ∀ q ∈ ((giveLabels desired).holdWith (overWire client candidate name)).questions answers,
      q.MakesOnly .adding desired := by
  unfold giveLabels
  split
  · intro q hq
    rw [show (Dialogue.done (.ok ()) : LabelDialogue).holdWith (overWire client candidate name) =
      .done (.ok ()) from rfl, questions_done] at hq
    cases hq
  · refine forall_questions_bind makesOnly_of_add fun reply later q hq => ?_
    rw [questions_afterSuccess] at hq
    cases hq

/-- To take labels away and give others makes these two changes, in this order. -/
theorem requests_of_swapLabels (present desired : LabelSet) :
    let requests :=
      ((swapLabels present desired).holdWith (overWire client candidate name)).questions answers
    requests.Pairwise RemovesFirst ∧
      ∀ q ∈ requests, q.MakesOnly .removing present ∨ q.MakesOnly .adding desired := by
  intro requests
  by_cases hp : present.isEmpty = true
  · have hs : swapLabels present desired = giveLabels desired := if_pos hp
    have hgive : ∀ q ∈ requests, q.MakesOnly .adding desired := by
      simpa only [requests, hs] using makesOnly_of_giveLabels desired
    exact ⟨pairwise_removesFirst (.inr fun q hq => (hgive q hq).not_removing),
      fun q hq => .inr (hgive q hq)⟩
  · have hs : swapLabels present desired =
        .ask (.remove present) (LabelDialogue.afterSuccess (giveLabels desired)) := if_neg hp
    have hlater : ∀ (reply : LabelReply) later, ∀ q ∈
        ((LabelDialogue.afterSuccess (giveLabels desired) reply).holdWith
          (overWire client candidate name)).questions later, q.MakesOnly .adding desired := by
      intro reply later q hq
      cases reply with
      | ok _ => exact makesOnly_of_giveLabels desired q hq
      | error cause => cases later <;> cases hq
    have hfirst := @makesOnly_of_remove present client candidate name answers
    have hbind : requests = ((overWire client candidate name (.remove present)).bind fun reply =>
        (LabelDialogue.afterSuccess (giveLabels desired) reply).holdWith
          (overWire client candidate name)).questions answers := by
      simp only [requests, hs]
      rfl
    rw [hbind]
    -- Nothing is given in the first part, and nothing is taken away in the second.
    constructor
    · refine pairwise_questions_bind ?_ (fun reply later => ?_) fun q hq reply later q' hq' ha => ?_
      · exact pairwise_removesFirst (.inl fun q hq => (hfirst q hq).not_adding)
      · exact pairwise_removesFirst (.inr fun q hq => (hlater reply later q hq).not_removing)
      · exact absurd ha (by simp [(hfirst q hq).not_adding])
    · exact forall_questions_bind (fun q hq => .inl (hfirst q hq))
        fun reply later q hq => .inr (hlater reply later q hq)

/-- A request that neither takes nor gives the managed label. -/
def SparesManaged (q : Request) : Prop :=
  Endpoint.addLabels.isAt q.url.path = true ∨ Endpoint.removeLabels.isAt q.url.path = true →
    LabelSet.managed ∉ words (q.field "labels")

theorem Request.MakesOnly.sparesManaged (h : q.MakesOnly change labels)
    (hm : LabelSet.managed ∉ labels) : SparesManaged q := by
  rintro (ha | hr) hw
  · exact hm ((h .adding ha).2 _ hw)
  · exact hm ((h .removing hr).2 _ hw)

theorem not_managed_mem_withoutManaged (labels : LabelSet) :
    LabelSet.managed ∉ labels.withoutManaged := by
  simp

/-- The requests after the answer to the question which labels the node has. -/
theorem requests_of_reply (desired : LabelSet) (hd : LabelSet.managed ∉ desired)
    (reply : LabelReply) :
    let requests :=
      ((match reply with
        | .ok held => swapLabels held.withoutManaged desired
        | .error cause => .done (.error (.coordinator cause)) : LabelDialogue).holdWith
          (overWire client candidate name)).questions answers
    requests.Pairwise RemovesFirst ∧ ∀ q ∈ requests, SparesManaged q := by
  cases reply with
  | error cause => cases answers <;> exact ⟨.nil, fun _ hq => nomatch hq⟩
  | ok held =>
    obtain ⟨horder, honly⟩ := @requests_of_swapLabels client candidate name answers
      held.withoutManaged desired
    refine ⟨horder, fun q hq => ?_⟩
    rcases honly q hq with h | h
    · exact h.sparesManaged (not_managed_mem_withoutManaged held)
    · exact h.sparesManaged hd

/-- **The requests of a change of labels**: labels are taken away first, and the managed one is spared. -/
theorem requests_of_softUpdate (static : LabelSet) (contents : String) :
    let requests := (client.softUpdate candidate name static contents).questions answers
    requests.Pairwise RemovesFirst ∧ ∀ q ∈ requests, SparesManaged q := by
  -- The question for labels makes no change at all, so that it comes before anything.
  have hget : ∀ q ∈ (overWire client candidate name .get).questions answers,
      q.MakesOnly .removing .empty := by
    intro q hq
    obtain ⟨fields, hf⟩ := isFor_of_getLabels q hq
    exact .of_isFor hf (by decide)
  have hd := not_managed_mem_withoutManaged (static.union (.parse contents))
  constructor
  · refine pairwise_questions_bind ?_ (fun reply later => (requests_of_reply _ hd reply).1)
      fun q hq reply later q' hq' ha => ?_
    · exact pairwise_removesFirst (.inl fun q hq => (hget q hq).not_adding)
    · exact absurd ha (by simp [(hget q hq).not_adding])
  · exact forall_questions_bind (fun q hq => (hget q hq).sparesManaged LabelSet.not_mem_empty)
      fun reply later => (requests_of_reply _ hd reply).2

end Requests

/-! ## The change as a whole -/

/-- **A change of labels over the wire.**  With a coordinator that keeps labels, a change that succeeds
leaves the node with the labels that it wants, and with the managed one if it had that before.  Whatever
comes back on the way, labels are taken away before others are given, and the managed label is neither
taken nor given. -/
theorem softUpdate_over_wire (client : HttpClient) (candidate : Candidate) (name : String)
    (static : LabelSet) (contents : String) :
    (∀ before after : Nodes, Held (Keeps fun _ => False) before
        (client.softUpdate candidate name static contents) (.ok ()) after →
      after name = ((before name).filter (· == LabelSet.managed)).union
        ((static.union (.parse contents)).withoutManaged)) ∧
    ∀ answers,
      let requests := ((client.softUpdate candidate name static contents).transcript answers).1
      requests.Pairwise (fun q q' => Endpoint.addLabels.isAt q.url.path = true →
        Endpoint.removeLabels.isAt q'.url.path = false) ∧
      ∀ q ∈ requests, Endpoint.addLabels.isAt q.url.path = true ∨
          Endpoint.removeLabels.isAt q.url.path = true →
        LabelSet.managed ∉ words (q.field "labels") := by
  constructor
  · intro before after h
    -- What the requests of a call come to is the effect of the call.
    have hcalls := (held_holdWith.mp h).mono fun _ _ _ _ => held_labelCall
    exact ((leads_softUpdate static contents before).goal_of_held hcalls).eq
  · intro answers
    exact requests_of_softUpdate static contents

/-- One label goes, one comes, and one stays, as the managed one does. -/
theorem softUpdate_over_wire_of_three :
    let candidate : Candidate :=
      ⟨{ scheme := "http", authority := some { host := .name "ci" }, path := "/" }, "key"⟩
    ∃ after : Nodes, Held (Keeps fun _ => False) (fun _ => .parse "linux old swarm")
        (({} : HttpClient).softUpdate candidate "builder" (.parse "linux") "gpu") (.ok ()) after ∧
      after "builder" = .parse "gpu linux swarm" := by
  intro candidate
  have hserved := @held_serve (fun _ => False) _
    (({} : HttpClient).softUpdate candidate "builder" (.parse "linux") "gpu")
    fun _ => .parse "linux old swarm"
  have hdone : (((({} : HttpClient).softUpdate candidate "builder" (.parse "linux") "gpu").holdWith
      serve).run fun _ => .parse "linux old swarm").1 = .ok () := by
    decide +kernel
  rw [hdone] at hserved
  obtain ⟨after, h⟩ := Exists.intro _ hserved
  have hlabels := (softUpdate_over_wire _ _ _ _ _).1 _ _ h
  refine ⟨after, h, ?_⟩
  rw [hlabels]
  decide +kernel

end NodeAgent
