import NodeAgent.Proofs.Coordinator.Payload

/-!
# The labels of a new node

To register a node is to send all of its labels, together with the request for the node or behind it.
Those that are sent behind it go to the name that the coordinator has settled on.

## Main definitions

* `Request.labelsSent`: the labels that a request gives to a node.
* `Registration.IsDelivered`: requests that give a node its labels.

## Main results

* `Rounds.eq_of_ok`, `Rounds.flatMap_of_ok`: the result and the requests of rounds that end well.
* `labelsSent_of_isFor`: a server sees the labels of a change in the request for it.
* `labels_delivered_once`: a registration that succeeds has sent each label once.
-/

namespace NodeAgent

open Text Dialogue

/-! ## Rounds that end well -/

section Rounds

variable {α β : Type} {own : List Header} {value : α} {postings : List Posting}
  {answers : List HttpAnswer} {requests : List Request} {result : Option (Except ProtocolError α)}

namespace Rounds

/-- **Rounds that end well** have the value of the call as their result. -/
theorem eq_of_ok (h : Rounds own value postings answers requests result) {v : α}
    (hr : result = some (.ok v)) : v = value := by
  induction h with
  | finished answers =>
    cases hr
    rfl
  | granted hq hc hq' hf h ih => exact ih hr
  | _ => cases hr

/-- **What is read off the requests** of rounds that end well, when there is nothing in the requests for
crumbs, is what is read off the changes. -/
theorem flatMap_of_ok (h : Rounds own value postings answers requests result) {v : α}
    (hr : result = some (.ok v)) {f : Request → List β} {g : Posting → List β}
    (hcrumb : ∀ q : Request, q.AsksForCrumb own → f q = [])
    (hchange : ∀ (q : Request) p, q.IsFor p.endpoint p.fields → f q = g p) :
    requests.flatMap f = postings.flatMap g := by
  -- The induction is on the rounds: each puts a request for a crumb and one for a change in front.
  induction h with
  | finished answers => rfl
  | granted hq hc hq' hf h ih =>
    rw [List.flatMap_cons, List.flatMap_cons, List.flatMap_cons, hcrumb _ hq,
      hchange _ _ hq'.isFor, ih hr]
    rfl
  | _ => cases hr

end Rounds

end Rounds

/-! ## Labels in requests -/

/-- Whether labels in a request for a place are given to a node. -/
def Endpoint.givesLabels (e : Endpoint) : Bool :=
  e == .createNode || e == .addLabels

/-- **The labels that a request gives to a node**, as a server reads them. -/
def Request.labelsSent (q : Request) : List String :=
  if Endpoint.createNode.isAt q.url.path || Endpoint.addLabels.isAt q.url.path then
    words (q.field "labels")
  else []

/-- The labels that a change gives to a node. -/
def Posting.labelsSent (p : Posting) : List String :=
  if p.endpoint.givesLabels then words ((p.fields.lookup "labels").getD "") else []

section Requests

variable {q : Request} {e f : Endpoint} {fields : List (String × String)}

/-- A request for a place is for no other. -/
theorem Request.IsFor.isAt_iff (h : q.IsFor e fields) : f.isAt q.url.path = true ↔ f = e := by
  constructor
  · intro hf
    exact Endpoint.eq_of_isAt hf h.isAt
  · rintro rfl
    exact h.isAt

/-- **A server sees the labels of a change** in the request for it. -/
theorem labelsSent_of_isFor {p : Posting} (h : q.IsFor p.endpoint p.fields) :
    q.labelsSent = p.labelsSent := by
  have hplace : (Endpoint.createNode.isAt q.url.path || Endpoint.addLabels.isAt q.url.path) =
      p.endpoint.givesLabels := by
    rw [Bool.eq_iff_iff, Bool.or_eq_true, h.isAt_iff, h.isAt_iff, Endpoint.givesLabels,
      Bool.or_eq_true, beq_iff_eq, beq_iff_eq, eq_comm, @eq_comm _ Endpoint.addLabels]
  rw [Request.labelsSent, hplace, h.field_eq, Posting.labelsSent]

theorem labelsSent_of_asksForCrumb {own : List Header} (h : q.AsksForCrumb own) :
    q.labelsSent = [] := by
  have hcreate : Endpoint.createNode.isAt q.url.path ≠ true := by
    rw [Ne, h.isFor.isAt_iff]
    decide
  have hadd : Endpoint.addLabels.isAt q.url.path ≠ true := by
    rw [Ne, h.isFor.isAt_iff]
    decide
  rw [Request.labelsSent, if_neg (by simp [hcreate, hadd])]

end Requests

/-! ## Labels of a registration -/

section Registration

variable {r : Registration} {secret name inlineLabels : String} {answers : List HttpAnswer}

theorem lookup_labels_fields (r : Registration) (secret inlineLabels : String) :
    (r.fields secret inlineLabels).lookup "labels" = some inlineLabels := by
  simp [Registration.fields, List.lookup_cons]

/-- The chunks of labels give a node all labels of the set. -/
theorem flatMap_labelsSent_postings (secret name : String) (labels : LabelSet) :
    (LabelChange.adding.postings secret name labels).flatMap Posting.labelsSent = labels.toList := by
  rw [LabelChange.postings, List.flatMap_map, ← labels.words_chunks]
  rfl

/-- **The changes of a registration give the node each label once.** -/
theorem flatMap_labelsSent_registration (r : Registration) (secret : String)
    (answers : List HttpAnswer) :
    (r.postings secret answers).flatMap Posting.labelsSent = r.labels.toList := by
  have hnode : Posting.labelsSent ⟨.createNode, .createNode, r.fields secret r.inlineLabels⟩ =
      words r.inlineLabels := by
    rw [Posting.labelsSent, lookup_labels_fields]
    rfl
  rw [Registration.postings, List.flatMap_cons, hnode, Registration.deferred,
    Registration.inlineLabels]
  cases r.defersLabels with
  | true => exact flatMap_labelsSent_postings _ _ _
  | false =>
    rw [if_neg (by simp), if_neg (by simp), List.flatMap_nil, List.append_nil]
    exact r.labels.words_joined

end Registration

/-- **What a registration under a name comes to**: requests, with the answers to them, that give the node
all of its labels. -/
structure Registration.IsDelivered (r : Registration) (name : String) (requests : List Request)
    (answers : List HttpAnswer) : Prop where
  /-- The second request is for the node, and the name is the one in the answer to it.  Without a name in
  the answer it is the one that was asked for. -/
  name_eq : ∃ q response body, requests[1]? = some q ∧ Endpoint.createNode.isAt q.url.path = true ∧
    answers[1]? = some (.ok response) ∧ response.text = .ok body ∧
    name = (announcedName? body).getD r.name
  /-- No label is sent twice. -/
  labels_nodup : (requests.flatMap Request.labelsSent).Nodup
  /-- The labels that are sent are those of the registration. -/
  mem_labels_iff : ∀ l, l ∈ requests.flatMap Request.labelsSent ↔ l ∈ r.labels
  /-- Either all labels go along with the request for the node and none are sent behind it, or none go
  along with it and those that are sent behind it are for the node of that name. -/
  along_or_behind :
    (∀ q ∈ requests, Endpoint.createNode.isAt q.url.path = true →
        words (q.field "labels") = r.labels.toList) ∧
      (∀ q ∈ requests, Endpoint.addLabels.isAt q.url.path = false) ∨
    (∀ q ∈ requests, Endpoint.createNode.isAt q.url.path = true → q.field "labels" = "") ∧
      ∀ q ∈ requests, Endpoint.addLabels.isAt q.url.path = true → q.field "name" = name

section Call

variable {client : HttpClient} {candidate : Candidate} {r : Registration} {answers : List HttpAnswer}

section Rounds

variable {name secret : String} {own : List Header} {requests : List Request}
  {result : Option (Except ProtocolError String)}

/-- The name under which a registration succeeds. -/
theorem name_of_ok
    (h : Rounds own (r.finalName answers[1]?) (r.postings secret answers) answers requests result)
    (hr : result = some (.ok name)) :
    ∃ response body, answers[1]? = some (.ok response) ∧ response.text = .ok body ∧
      name = (announcedName? body).getD r.name := by
  -- The first change is the one for the node, and it was granted.
  obtain ⟨answer, hanswer, hgranted⟩ := (h.end_of_ok hr).2 0 _ rfl
  obtain ⟨response, rfl, -⟩ := Posting.isOk_of_failure?_eq_none hgranted
  cases hbody : response.text with
  | error cause =>
    simp only [Posting.failure?, if_true, hbody] at hgranted
    cases hgranted
  | ok body =>
    refine ⟨response, body, hanswer, hbody, ?_⟩
    have hanswer' : answers[1]? = some (.ok response) := hanswer
    rw [h.eq_of_ok hr, hanswer', Registration.finalName, Response.finalName, hbody]
    rfl

/-- The second request of a registration that succeeds is the one for the node. -/
theorem exists_second_request {value : String}
    (h : Rounds own value (r.postings secret answers) answers requests result)
    (hr : result = some (.ok name)) :
    ∃ q, requests[1]? = some q ∧ Endpoint.createNode.isAt q.url.path = true := by
  have hsecond : 2 * 0 + 1 < requests.length := by
    rw [(h.end_of_ok hr).1, Registration.postings, List.length_cons]
    omega
  have hq := List.getElem?_eq_getElem hsecond
  obtain ⟨p, crumbs, hp, -, -, hasks⟩ := h.change_request hq
  obtain rfl := Option.some.inj hp
  exact ⟨_, hq, hasks.isFor.isAt⟩

end Rounds

/-- A request for the node, or for labels behind it, comes from one of the changes. -/
theorem exists_posting_of_isAt {own : List Header} {e : Endpoint} {q : Request}
    (h : (client.createNode candidate r).Alternates own (r.postings candidate.secret))
    (hq : q ∈ (client.createNode candidate r).run.questions answers) (he : e.isAt q.url.path = true)
    (hne : e ≠ .crumb) :
    ∃ p ∈ r.postings candidate.secret answers, p.endpoint = e ∧ q.IsFor p.endpoint p.fields := by
  rcases h.forall_requests answers q hq with hcrumb | ⟨p, hp, hfor⟩
  · exact absurd (hcrumb.isFor.isAt_iff.mp he) hne
  · exact ⟨p, hp, (hfor.isAt_iff.mp he).symm, hfor⟩

/-- The changes behind the one for the node are for labels, under the final name. -/
theorem mem_deferred {secret : String} {answer? : Option HttpAnswer} {p : Posting}
    (h : p ∈ r.deferred secret answer?) : r.defersLabels = true ∧ p.endpoint = .addLabels ∧
      p.fields.lookup "name" = some (r.finalName answer?) := by
  unfold Registration.deferred at h
  split at h
  · next hdefers =>
    obtain ⟨chunk, -, rfl⟩ := List.mem_map.mp h
    exact ⟨hdefers, rfl, rfl⟩
  · cases h

/-- The request for the node carries the labels that go along with it. -/
theorem field_labels_of_isAt {own : List Header} {q : Request}
    (h : (client.createNode candidate r).Alternates own (r.postings candidate.secret))
    (hq : q ∈ (client.createNode candidate r).run.questions answers)
    (he : Endpoint.createNode.isAt q.url.path = true) : q.field "labels" = r.inlineLabels := by
  obtain ⟨p, hp, hplace, hfor⟩ := exists_posting_of_isAt h hq he (by decide)
  rcases List.mem_cons.mp hp with rfl | hdeferred
  · rw [hfor.field_eq, lookup_labels_fields]
    rfl
  · rw [(mem_deferred hdeferred).2.1] at hplace
    cases hplace

/-- The requests for labels behind the one for the node name the node as it was settled. -/
theorem field_name_of_isAt {own : List Header} {q : Request}
    (h : (client.createNode candidate r).Alternates own (r.postings candidate.secret))
    (hq : q ∈ (client.createNode candidate r).run.questions answers)
    (he : Endpoint.addLabels.isAt q.url.path = true) :
    r.defersLabels = true ∧ q.field "name" = r.finalName answers[1]? := by
  obtain ⟨p, hp, hplace, hfor⟩ := exists_posting_of_isAt h hq he (by decide)
  rcases List.mem_cons.mp hp with rfl | hdeferred
  · cases hplace
  · obtain ⟨hdefers, -, hname⟩ := mem_deferred hdeferred
    rw [hfor.field_eq, hname]
    exact ⟨hdefers, rfl⟩

/-- All labels go along with the request for the node, or none of them. -/
theorem along_or_behind {own : List Header}
    (h : (client.createNode candidate r).Alternates own (r.postings candidate.secret))
    (answers : List HttpAnswer) :
    (∀ q ∈ (client.createNode candidate r).run.questions answers,
        Endpoint.createNode.isAt q.url.path = true → words (q.field "labels") = r.labels.toList) ∧
      (∀ q ∈ (client.createNode candidate r).run.questions answers,
        Endpoint.addLabels.isAt q.url.path = false) ∨
    (∀ q ∈ (client.createNode candidate r).run.questions answers,
        Endpoint.createNode.isAt q.url.path = true → q.field "labels" = "") ∧
      ∀ q ∈ (client.createNode candidate r).run.questions answers,
        Endpoint.addLabels.isAt q.url.path = true → q.field "name" = r.finalName answers[1]? := by
  cases hdefers : r.defersLabels with
  | false =>
    left
    constructor
    · intro q hq he
      rw [field_labels_of_isAt h hq he, Registration.inlineLabels, hdefers]
      exact r.labels.words_joined
    · intro q hq
      by_contra he
      rw [Bool.not_eq_false] at he
      cases hdefers.symm.trans (field_name_of_isAt h hq he).1
  | true =>
    right
    constructor
    · intro q hq he
      rw [field_labels_of_isAt h hq he, Registration.inlineLabels, hdefers]
      rfl
    · intro q hq he
      exact (field_name_of_isAt h hq he).2

/-- A registration that succeeds has gone in rounds: without a place for nodes it fails at once. -/
theorem goesInRounds_of_ok {name : String}
    (hr : ((client.createNode candidate r).run.transcript answers).2 = some (.ok name)) :
    (client.createNode candidate r).GoesInRounds (client.ownHeaders candidate.url)
      (r.finalName answers[1]?) (r.postings candidate.secret answers) answers := by
  cases hu : Endpoint.createNode.on candidate.url with
  | error cause =>
    rw [HttpClient.createNode, hu] at hr
    cases answers <;> cases hr
  | ok url => exact rounds_createNode hu r answers

/-- **A registration that succeeds is delivered.** -/
theorem isDelivered_of_ok {name : String}
    (hr : ((client.createNode candidate r).run.transcript answers).2 = some (.ok name)) :
    r.IsDelivered name ((client.createNode candidate r).run.questions answers) answers := by
  have hrounds := goesInRounds_of_ok hr
  have hlabels : ((client.createNode candidate r).run.questions answers).flatMap
      Request.labelsSent = r.labels.toList := by
    rw [← flatMap_labelsSent_registration r candidate.secret answers]
    exact hrounds.flatMap_of_ok hr (fun q hq => labelsSent_of_asksForCrumb hq)
      fun q p hfor => labelsSent_of_isFor hfor
  constructor
  · obtain ⟨q, hq, hplace⟩ := exists_second_request hrounds hr
    obtain ⟨response, body, hanswer, hbody, hname⟩ := name_of_ok hrounds hr
    exact ⟨q, response, body, hq, hplace, hanswer, hbody, hname⟩
  · rw [hlabels]
    refine r.labels.sorted.imp ?_
    rintro l _ hlt rfl
    exact String.lt_irrefl l hlt
  · intro l
    rw [hlabels]
    exact LabelSet.mem_toList
  · rw [hrounds.eq_of_ok hr]
    exact along_or_behind (alternates_createNode client candidate r) answers

/-- **A chunk of labels that is refused** makes the registration fail. -/
theorem error_of_refused_chunk {i : Nat} {q : Request} {answer : HttpAnswer}
    (hq : ((client.createNode candidate r).run.questions answers)[i]? = some q)
    (he : Endpoint.addLabels.isAt q.url.path = true) (ha : answers[i]? = some answer)
    (hbad : ∀ response, answer = .ok response → response.isOk = false) :
    ∃ cause, ((client.createNode candidate r).run.transcript answers).2 = some (.error cause) := by
  -- There is a request, so that the coordinator has places beneath its address.
  have hplaces : candidate.url.isOpaque = false := by
    by_contra hopaque
    have hnone := (failsAtOnce_createNode client candidate (by simpa using hopaque) r).questions_eq_nil
    simp [hnone] at hq
  have horderly := isOrderly_createNode client candidate hplaces r
  rcases Nat.even_or_odd' i with ⟨j, rfl | rfl⟩
  · have hcrumb := (horderly.crumb_request answers j q hq).isFor.isAt_iff.mp he
    cases hcrumb
  · obtain ⟨hlength, -⟩ := List.getElem?_eq_some_iff.mp hq
    obtain ⟨p, cause, hp, hcause⟩ := horderly.refused answers j answer hlength ha hbad
    exact ⟨cause, (horderly.failed answers j p answer cause hlength hp ha hcause).2⟩

/-- **A registration that succeeds has sent each label once**, under the name that the coordinator has
settled on.  It fails if a chunk of labels behind the request for the node is refused. -/
theorem labels_delivered_once (client : HttpClient) (candidate : Candidate) (r : Registration)
    (answers : List HttpAnswer) :
    (∀ name, ((client.createNode candidate r).run.transcript answers).2 = some (.ok name) →
      r.IsDelivered name ((client.createNode candidate r).run.questions answers) answers) ∧
    ∀ (i : Nat) (q : Request) (answer : HttpAnswer),
      ((client.createNode candidate r).run.questions answers)[i]? = some q →
      Endpoint.addLabels.isAt q.url.path = true → answers[i]? = some answer →
      (∀ response, answer = .ok response → response.isOk = false) →
      ∃ cause, ((client.createNode candidate r).run.transcript answers).2 = some (.error cause) := by
  constructor
  · intro name hr
    exact isDelivered_of_ok hr
  · intro i q answer hq he ha hbad
    exact error_of_refused_chunk hq he ha hbad

end Call

/-- A label of one letter and one of 1000 letters. -/
def shortAndLong : LabelSet where
  toList := [letters 1 'a', letters 1000 'b']
  sorted := by simpa using letters_lt (by decide) (by decide) (by decide)
  areLabels := by
    intro l hl
    rcases List.mem_cons.mp hl with rfl | hl
    · exact isLabel_letters (by decide) (by decide)
    · rw [List.mem_singleton.mp hl]
      exact isLabel_letters (by decide) (by decide)

/-- Labels that are too long to go along with a node follow it in two chunks, under the name that the
coordinator gives it.  When the second chunk is refused, the registration fails. -/
theorem labels_delivered_once_of_rename :
    let candidate : Candidate :=
      ⟨{ scheme := "http", authority := some { host := .name "ci" }, path := "/" }, "key"⟩
    let r : Registration := { name := "builder", executors := 1, fsRoot := "/", labels := shortAndLong }
    let noCrumb : HttpAnswer := .ok { status := 404 }
    let named : HttpAnswer := .ok { status := 200, body := .ok (encodeUtf8 "name=builder-1") }
    let granted : HttpAnswer := .ok { status := 200 }
    let refused : HttpAnswer := .ok { status := 500 }
    let call := ({} : HttpClient).createNode candidate r
    let front := [noCrumb, named, noCrumb, granted, noCrumb]
    r.defersLabels = true ∧
      (call.run.transcript (front ++ [granted])).2 = some (.ok "builder-1") ∧
      r.IsDelivered "builder-1" (call.run.questions (front ++ [granted])) (front ++ [granted]) ∧
      ∃ cause, (call.run.transcript (front ++ [refused])).2 = some (.error cause) := by
  intro candidate r noCrumb named granted refused call front
  have hdefers : r.defersLabels = true := by decide +kernel
  have hresult : (call.run.transcript (front ++ [granted])).2 = some (.ok "builder-1") := by
    decide +kernel
  have hplace : (call.run.questions (front ++ [refused]))[5]?.any
      (fun q => Endpoint.addLabels.isAt q.url.path) = true := by
    decide +kernel
  refine ⟨hdefers, hresult, ?_, ?_⟩
  · exact (labels_delivered_once {} candidate r (front ++ [granted])).1 "builder-1" hresult
  · obtain ⟨q, hq, he⟩ := (Option.any_eq_true _ _).mp hplace
    refine (labels_delivered_once {} candidate r (front ++ [refused])).2 5 q refused hq he rfl ?_
    intro response hresponse
    rw [← Except.ok.inj hresponse]
    rfl

end NodeAgent
