import NodeAgent.Proofs.Coordinator.Endpoint
import NodeAgent.Proofs.Coordinator.Exchange
import NodeAgent.Proofs.Label.Chunk

/-!
# A coordinator that keeps labels

A coordinator keeps a set of labels for each node.  It is told apart here what a coordinator has to do
with a request and what comes of the calls of the agent.  A coordinator may put and drop labels of some
kind by itself at any time; these are free.  A request that fails may have any effect.

## Main definitions

* `Nodes`: the labels of all nodes, by name.
* `Response.Reports`: a response that reports the labels of a node.
* `Keeps`: what a coordinator does with a request.
* `LabelCall.Effect`: what comes of a call about the labels of a node.

## Main results

* `sent_of_held_sendChange`, `sent_of_held_createNode`: the request that makes the change.
* `held_getLabels`, `held_changeLabels`, `held_createNode`: what the calls come to.
* `held_labelCall`: the same for the calls of a change of labels.
-/

namespace NodeAgent

open Text Xml Dialogue

/-- **The labels of all nodes** of a coordinator, by the names of the nodes. -/
abbrev Nodes := String → LabelSet

/-- Whether nodes have the same labels, apart from free ones. -/
def Nodes.AgreeBut (free : String → Prop) (nodes nodes' : Nodes) : Prop :=
  ∀ name, (nodes name).AgreeBut free (nodes' name)

namespace Response

/-- **A response that reports labels**: its document has them, in some order and separated by spaces, as
the only text of the first element `labels`. -/
def Reports (response : Response) (labels : LabelSet) : Prop :=
  ∃ body root order children, response.text = .ok body ∧ parseXml body = .ok root ∧
    root.find? "labels" = some (.element "labels" children) ∧ (∀ l, l ∈ order ↔ l ∈ labels) ∧
    (children = [.text (" ".intercalate order)] ∨ children = [] ∧ order = [])

/-- The name under which a node is registered, after a request for some name. -/
def finalName (response : Response) (name : String) : String :=
  (response.text.toOption.bind announcedName?).getD name

end Response

/-- **What a coordinator does with a request** about the labels of a node when all goes well.  It reads
labels by cutting a field into words. -/
structure Keeps (free : String → Prop) (before : Nodes) (request : Request)
    (answer : Except HttpError Response) (after : Nodes) : Prop where
  /-- A request that changes nothing. -/
  others : Endpoint.createNode.isAt request.url.path = false →
    Endpoint.addLabels.isAt request.url.path = false →
    Endpoint.removeLabels.isAt request.url.path = false → before.AgreeBut free after
  reports : Endpoint.getLabels.isAt request.url.path = true →
    ∀ response, answer = .ok response → response.isOk = true →
      ∃ shown, (before (request.field "name")).AgreeBut free shown ∧ response.Reports shown
  adds : Endpoint.addLabels.isAt request.url.path = true →
    ∀ response, answer = .ok response → response.isOk = true →
      (after (request.field "name")).AgreeBut free
        ((before (request.field "name")).union (.parse (request.field "labels")))
  removes : Endpoint.removeLabels.isAt request.url.path = true →
    ∀ response, answer = .ok response → response.isOk = true →
      (after (request.field "name")).AgreeBut free
        ((before (request.field "name")).diff (.parse (request.field "labels")))
  creates : Endpoint.createNode.isAt request.url.path = true →
    ∀ response, answer = .ok response → response.isOk = true →
      (after (response.finalName (request.field "name"))).AgreeBut free
        (.parse (request.field "labels"))

variable {free : String → Prop} {before after : Nodes}

theorem Nodes.AgreeBut.trans {a b c : Nodes} (h : a.AgreeBut free b) (h' : b.AgreeBut free c) :
    a.AgreeBut free c := fun name => (h name).trans (h' name)

/-- A coordinator may do with the free labels as it likes. -/
theorem Keeps.of_agreeBut {request : Request} {answer : Except HttpError Response} {after' : Nodes}
    (h : Keeps free before request answer after) (ha : after.AgreeBut free after') :
    Keeps free before request answer after' where
  others hc hadd hremove := (h.others hc hadd hremove).trans ha
  reports := h.reports
  adds hadd response hr hok := (ha _).symm.trans (h.adds hadd response hr hok)
  removes hremove response hr hok := (ha _).symm.trans (h.removes hremove response hr hok)
  creates hc response hr hok := (ha _).symm.trans (h.creates hc response hr hok)

/-- **Labels that are reported are read back.** -/
theorem Response.Reports.elementText {response : Response} {labels : LabelSet}
    (h : response.Reports labels) :
    ∃ body text, response.text = .ok body ∧ elementText? "labels" body = .ok (some text) ∧
      LabelSet.parse text = labels := by
  obtain ⟨body, root, order, children, hb, hr, hf, ho, hc⟩ := h
  have hl : (XmlNode.element "labels" children).leadingText = " ".intercalate order := by
    rcases hc with rfl | ⟨rfl, rfl⟩
    · rfl
    · exact String.intercalate_nil.symm
  have hw : words (" ".intercalate order) = order := by
    refine words_intercalate fun l hm => isLabel_iff_isWord.mp ?_
    exact LabelSet.isLabel_of_mem ((ho l).mp hm)
  -- The text is trimmed before it is cut into words, which changes none of them.
  refine ⟨body, trim (" ".intercalate order), hb, ?_, LabelSet.ext fun l => ?_⟩
  · rw [elementText?, hr]
    simp only [Except.map, hf, Option.map_some, hl]
  · rw [LabelSet.mem_parse, words_trim, hw, ho]

/-! ## Requests that change something -/

section Calls

variable {client : HttpClient} {candidate : Candidate} {name : String}

/-- A request for a place that does not change labels changes none. -/
theorem Keeps.others_of_isFor {request : Request} {e : Endpoint} {fields : List (String × String)}
    {answer : Except HttpError Response} (hr : request.IsFor e fields)
    (he : e ≠ .createNode ∧ e ≠ .addLabels ∧ e ≠ .removeLabels)
    (h : Keeps free before request answer after) : before.AgreeBut free after := by
  have hne : ∀ f : Endpoint, e ≠ f → f.isAt request.url.path = false := by
    intro f hf
    by_contra hp
    exact hf (Endpoint.eq_of_isAt hr.isAt (by simpa using hp))
  exact h.others (hne _ he.1) (hne _ he.2.1) (hne _ he.2.2)

/-- To fetch a crumb changes nothing. -/
theorem held_fetchCrumb {base : Url} {crumb? : Option Crumb}
    (h : Held (Keeps free) before (client.fetchCrumb base) crumb? after) :
    before.AgreeBut free after := by
  unfold HttpClient.fetchCrumb at h
  split at h
  · obtain ⟨-, rfl⟩ := held_done.mp h
    exact fun _ => .refl _
  · next url hu =>
    obtain ⟨answer, between, hq, hd⟩ := held_bind.mp h
    obtain ⟨-, rfl⟩ := held_done.mp hd
    exact Keeps.others_of_isFor (.of_request hu client .get _ (List.cons_ne_nil _ _)) (by decide)
      (held_question.mp hq)

/-- **A request that changes something** arrives where it was meant to, behind one for a crumb. -/
theorem sent_of_held_sendChange {R : Nodes → Request → Except HttpError Response → Nodes → Prop}
    {base : Url} {request : Request} {e : Endpoint} {fields : List (String × String)}
    {response : Response} (hr : request.IsFor e fields)
    (h : Held R before (client.sendChange base request).run (.ok response) after) :
    ∃ crumb? between request', Held R before (client.fetchCrumb base) crumb? between ∧
      request'.IsFor e fields ∧ R between request' (.ok response) after := by
  obtain ⟨crumb?, between, hc, hrest⟩ := Exchange.held_bind_ok.mp h
  obtain ⟨request', _, hx, hs⟩ := Exchange.held_bind_ok.mp hrest
  obtain ⟨hw, rfl⟩ := Exchange.held_ofExcept_ok.mp hx
  exact ⟨crumb?, _, request', Exchange.held_lift_ok.mp hc,
    hr.withCrumb (mapError_eq_ok.mp hw), Exchange.held_send_ok.mp hs⟩

theorem held_sendChange {base : Url} {request : Request} {e : Endpoint}
    {fields : List (String × String)} {response : Response} (hr : request.IsFor e fields)
    (h : Held (Keeps free) before (client.sendChange base request).run (.ok response) after) :
    ∃ between request', before.AgreeBut free between ∧ request'.IsFor e fields ∧
      Keeps free between request' (.ok response) after := by
  obtain ⟨crumb?, between, request', hc, hr', hk⟩ := sent_of_held_sendChange hr h
  exact ⟨between, request', held_fetchCrumb hc, hr', hk⟩

/-! ## Changes of labels -/

/-- What a change makes of a set of labels. -/
def LabelChange.apply (change : LabelChange) (held labels : LabelSet) : LabelSet :=
  match change with
  | adding => held.union labels
  | removing => held.diff labels

theorem LabelChange.apply_agreeBut (change : LabelChange) {held held' : LabelSet}
    (h : held.AgreeBut free held') (labels : LabelSet) :
    (change.apply held labels).AgreeBut free (change.apply held' labels) := by
  cases change with
  | adding => exact h.union (.refl labels)
  | removing => exact h.diff (.refl labels)

/-- A change chunk by chunk is the change by all the words of the chunks. -/
theorem LabelChange.mem_foldl_apply (change : LabelChange) {l : String} {chunks : List String}
    {held : LabelSet} :
    l ∈ chunks.foldl (fun s chunk => change.apply s (.parse chunk)) held ↔
      match change with
      | adding => l ∈ held ∨ l ∈ chunks.flatMap words
      | removing => l ∈ held ∧ l ∉ chunks.flatMap words := by
  induction chunks generalizing held with
  | nil => cases change <;> simp
  | cons chunk chunks ih =>
    rw [List.foldl_cons, ih, List.flatMap_cons, List.mem_append]
    cases change with
    | adding => simp only [apply, LabelSet.mem_union, LabelSet.mem_parse]; tauto
    | removing => simp only [apply, LabelSet.mem_diff, LabelSet.mem_parse]; tauto

theorem LabelChange.foldl_apply (change : LabelChange) (held labels : LabelSet) :
    labels.chunks.foldl (fun s chunk => change.apply s (.parse chunk)) held =
      change.apply held labels := by
  refine LabelSet.ext fun l => ?_
  rw [change.mem_foldl_apply, labels.words_chunks]
  cases change with
  | adding => exact LabelSet.mem_union.symm
  | removing => exact LabelSet.mem_diff.symm

theorem held_sendChunk {url : Url} {change : LabelChange} {chunk : String}
    (hu : change.endpoint.on candidate.url = .ok url)
    (h : Held (Keeps free) before (client.sendChunk candidate url change name chunk).run (.ok ())
      after) :
    (after name).AgreeBut free (change.apply (before name) (.parse chunk)) := by
  obtain ⟨response, between, hs, hend⟩ := Exchange.held_bind_ok.mp h
  -- A refusal fails the exchange, so that the response was a success.
  have hok : response.isOk = true ∧ between = after := by
    cases hr : response.isOk with
    | true =>
      rw [hr] at hend
      exact ⟨rfl, (Exchange.held_pure_ok.mp hend).2.symm⟩
    | false =>
      rw [hr] at hend
      exact absurd hend Exchange.not_held_fail_ok
  obtain ⟨hok, rfl⟩ := hok
  have hfor : ((client.request .post url).withQuery
      [("name", name), ("secret", candidate.secret), ("labels", chunk)]).IsFor change.endpoint _ :=
    .of_request hu client .post _ (List.cons_ne_nil _ _)
  obtain ⟨first, request, hb, hr, hk⟩ := held_sendChange hfor hs
  have hname : request.field "name" = name := hr.field_eq "name"
  have hlabels : request.field "labels" = chunk := hr.field_eq "labels"
  have hkept : (between name).AgreeBut free (change.apply (first name) (.parse chunk)) := by
    cases change with
    | adding =>
      have hadds := hk.adds hr.isAt response rfl hok
      rw [hname, hlabels] at hadds
      exact hadds
    | removing =>
      have hremoves := hk.removes hr.isAt response rfl hok
      rw [hname, hlabels] at hremoves
      exact hremoves
  -- The crumb that was fetched first changed nothing.
  exact hkept.trans (change.apply_agreeBut (hb name).symm _)

theorem held_sendChunks {url : Url} {change : LabelChange} {chunks : List String}
    (hu : change.endpoint.on candidate.url = .ok url) {held : LabelSet}
    (hb : (before name).AgreeBut free held)
    (h : Held (Keeps free) before (client.sendChunks candidate url change name chunks).run (.ok ())
      after) :
    (after name).AgreeBut free
      (chunks.foldl (fun s chunk => change.apply s (.parse chunk)) held) := by
  -- The labels of the node are followed from chunk to chunk, so that they are any at the start.
  induction chunks generalizing before held with
  | nil =>
    obtain ⟨-, rfl⟩ := Exchange.held_pure_ok.mp h
    exact hb
  | cons chunk chunks ih =>
    obtain ⟨⟨⟩, between, hc, hrest⟩ := Exchange.held_bind_ok.mp h
    exact ih ((held_sendChunk hu hc).trans (change.apply_agreeBut hb _)) hrest

/-- **A change of labels that succeeds** changes the labels of the node. -/
theorem held_changeLabels {change : LabelChange} {labels : LabelSet}
    (h : Held (Keeps free) before (client.changeLabels candidate change name labels).run (.ok ())
      after) :
    (after name).AgreeBut free (change.apply (before name) labels) := by
  obtain ⟨url, between, hx, hs⟩ := Exchange.held_bind_ok.mp h
  obtain ⟨hu, rfl⟩ := Exchange.held_ofExcept_ok.mp hx
  -- The labels of all chunks together are those of the change.
  rw [← change.foldl_apply]
  exact held_sendChunks hu (.refl _) hs

/-! ## Labels that are asked for -/

/-- **Labels that are asked for** are those that the node has. -/
theorem held_getLabels {labels : LabelSet}
    (h : Held (Keeps free) before (client.getLabels candidate name).run (.ok labels) after) :
    before.AgreeBut free after ∧ (before name).AgreeBut free labels := by
  obtain ⟨url, between, hx, hrest⟩ := Exchange.held_bind_ok.mp h
  obtain ⟨hu, rfl⟩ := Exchange.held_ofExcept_ok.mp hx
  obtain ⟨text, between', ha, hp⟩ := Exchange.held_bind_ok.mp hrest
  obtain ⟨rfl, rfl⟩ := Exchange.held_pure_ok.mp hp
  obtain ⟨response, body, hk, hok, hb, he⟩ := Exchange.held_askElement_ok.mp ha
  have hr : ((client.request .get url).withQuery
      [("name", name), ("secret", candidate.secret)]).IsFor .getLabels _ :=
    .of_request hu client .get _ (List.cons_ne_nil _ _)
  have hname : ((client.request .get url).withQuery
      [("name", name), ("secret", candidate.secret)]).field "name" = name := hr.field_eq "name"
  refine ⟨hk.others_of_isFor hr (by decide), ?_⟩
  -- The document that the coordinator means is the one that was read.
  obtain ⟨shown, hs, hreports⟩ := hk.reports hr.isAt response rfl hok
  obtain ⟨body', text', hb', he', hparse⟩ := hreports.elementText
  obtain rfl : body = body' := Except.ok.inj (hb.symm.trans hb')
  obtain rfl : text = text' := Option.some.inj (Except.ok.inj (he.symm.trans he'))
  rw [hname] at hs
  rw [hparse]
  exact hs

/-- **What comes of a call** about the labels of a node. -/
def LabelCall.Effect (free : String → Prop) (name : String) (before : Nodes) (call : LabelCall)
    (reply : LabelReply) (after : Nodes) : Prop :=
  match call, reply with
  | get, .ok labels => before.AgreeBut free after ∧ (before name).AgreeBut free labels
  | add labels, .ok _ => (after name).AgreeBut free ((before name).union labels)
  | remove labels, .ok _ => (after name).AgreeBut free ((before name).diff labels)
  | _, .error _ => True

/-- What comes of a call comes of it also with labels that agree. -/
theorem LabelCall.Effect.of_agreeBut {call : LabelCall} {reply : LabelReply} {before' : Nodes}
    (hb : before.AgreeBut free before') (h : call.Effect free name before' reply after) :
    call.Effect free name before reply after := by
  cases reply with
  | error cause => cases call <;> trivial
  | ok labels =>
    cases call with
    | get => exact ⟨hb.trans h.1, (hb name).trans h.2⟩
    | add given => exact LabelSet.AgreeBut.trans h ((hb name).symm.union (.refl given))
    | remove taken => exact LabelSet.AgreeBut.trans h ((hb name).symm.diff (.refl taken))

theorem held_labelCall {call : LabelCall} {reply : LabelReply}
    (h : Held (Keeps free) before (client.labelCall candidate name call).run reply after) :
    call.Effect free name before reply after := by
  cases reply with
  | error cause => cases call <;> trivial
  | ok labels =>
    cases call with
    | get => exact held_getLabels h
    | add given =>
      obtain ⟨⟨⟩, between, hc, hp⟩ := Exchange.held_bind_ok.mp h
      obtain ⟨-, rfl⟩ := Exchange.held_pure_ok.mp hp
      exact held_changeLabels hc
    | remove taken =>
      obtain ⟨⟨⟩, between, hc, hp⟩ := Exchange.held_bind_ok.mp h
      obtain ⟨-, rfl⟩ := Exchange.held_pure_ok.mp hp
      exact held_changeLabels hc

/-! ## Registration -/

/-- The labels that go along with the request for a node. -/
def Registration.inlineLabels (r : Registration) : String :=
  if r.defersLabels then "" else r.labels.joined

/-- **The request that registers a node**, and what is left to do behind it. -/
theorem sent_of_held_createNode {R : Nodes → Request → Except HttpError Response → Nodes → Prop}
    {r : Registration} (h : Held R before (client.createNode candidate r).run (.ok name) after) :
    ∃ asked request response created,
      request.IsFor .createNode (r.fields candidate.secret r.inlineLabels) ∧
      R asked request (.ok response) created ∧ response.isOk = true ∧
      response.finalName r.name = name ∧
      Held R created
        (if r.defersLabels then client.addLabels candidate name r.labels else pure ()).run (.ok ())
        after := by
  obtain ⟨url, between, hx, hrest⟩ := Exchange.held_bind_ok.mp h
  obtain ⟨hu, rfl⟩ := Exchange.held_ofExcept_ok.mp hx
  obtain ⟨response, created, hs, hbody⟩ := Exchange.held_bind_ok.mp hrest
  obtain ⟨body, between', ht, hend⟩ := Exchange.held_bind_ok.mp hbody
  obtain ⟨hb, rfl⟩ := Exchange.held_body_ok.mp ht
  obtain ⟨-, asked, request, -, hr, hk⟩ := sent_of_held_sendChange
    (.of_request hu client .post _ (List.cons_ne_nil _ _)) hs
  have hfinal : response.finalName r.name = (announcedName? body).getD r.name := by
    rw [Response.finalName, hb]; rfl
  -- A refusal fails the exchange, so that the response was a success.
  cases hok : response.isOk with
  | false =>
    rw [hok] at hend
    exact absurd hend Exchange.not_held_fail_ok
  | true =>
    rw [hok, ← hfinal] at hend
    refine ⟨asked, request, response, _, hr, hk, hok, ?_⟩
    cases hd : r.defersLabels with
    | false =>
      simp only [hd] at hend
      obtain ⟨rfl, rfl⟩ := Exchange.held_pure_ok.mp hend
      exact ⟨rfl, Exchange.held_pure_ok.mpr ⟨rfl, rfl⟩⟩
    | true =>
      simp only [hd] at hend
      obtain ⟨⟨⟩, later, hadd, hp⟩ := Exchange.held_bind_ok.mp hend
      obtain ⟨rfl, rfl⟩ := Exchange.held_pure_ok.mp hp
      exact ⟨rfl, hadd⟩

/-- **A node that is registered** has the labels of its registration, whether they went along with the
request or came after it. -/
theorem held_createNode {r : Registration}
    (h : Held (Keeps free) before (client.createNode candidate r).run (.ok name) after) :
    (after name).AgreeBut free r.labels := by
  obtain ⟨asked, request, response, created, hr, hk, hok, rfl, hrest⟩ := sent_of_held_createNode h
  have hname : request.field "name" = r.name := hr.field_eq "name"
  have hlabels : request.field "labels" = r.inlineLabels := hr.field_eq "labels"
  have hcreates := hk.creates hr.isAt response rfl hok
  rw [hname, hlabels, Registration.inlineLabels] at hcreates
  cases hd : r.defersLabels with
  | false =>
    rw [hd] at hcreates hrest
    obtain ⟨-, rfl⟩ := Exchange.held_pure_ok.mp hrest
    rw [if_neg Bool.false_ne_true, LabelSet.parse_joined] at hcreates
    exact hcreates
  | true =>
    rw [hd] at hcreates hrest
    -- The node was created without labels, and all of them were given to it under its final name.
    have hall := (held_changeLabels hrest).trans (hcreates.union (.refl r.labels))
    refine hall.trans fun l _ => ?_
    have hnone : l ∉ LabelSet.parse "" := by rw [LabelSet.mem_parse]; exact List.not_mem_nil
    rw [if_pos rfl, LabelSet.mem_union]
    exact or_iff_right hnone

end Calls

end NodeAgent
