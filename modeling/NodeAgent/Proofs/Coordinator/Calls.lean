import NodeAgent.Proofs.Coordinator.Keeping
import NodeAgent.Proofs.Coordinator.Rounds

/-!
# The calls that change something

To create a node and to give or take labels are calls that go in rounds.  From this it is read off what
a server sees of them, and when they end.

## Main definitions

* `Exchange.GoesInRounds`: the rounds of an exchange along a list of answers.
* `Registration.postings`, `LabelChange.postings`: the changes that the calls ask for.
* `Exchange.Alternates`: what a server sees of a call.
* `Exchange.AsksBehindCrumbs`: when the changes of a call are asked for.
* `Exchange.IsOrderly`: how a call ends besides.
* `Exchange.FailsAtOnce`: a call that ends without a request.
* `Exchange.CarriesCredentials`: with which credentials a call asks.

## Main results

* `rounds_createNode`, `rounds_changeLabels`: the rounds of the calls.
* `calls_are_orderly`: what a server sees of the calls, and how they end.
* `change_asked_iff_no_bad_crumb`: a change is asked for unless there is a bad crumb.
-/

namespace NodeAgent

open Text Dialogue

section Calls

variable {client : HttpClient} {candidate : Candidate} {α : Type}

/-- To send a change is to ask for a crumb and then, if all is well with it, for the change. -/
theorem run_sendChange_bind {base u : Url} (hu : Endpoint.crumb.on base = .ok u) (request : Request)
    (f : Response → Exchange α) :
    (client.sendChange base request >>= f).run =
      .ask ((client.request .get u).withQuery [("xpath", crumbExpression)]) fun crumbs =>
        match request.withCrumb (crumbIn? crumbs) with
        | .error cause => .done (.error (.http cause))
        | .ok request => .ask request fun
          | .error cause => .done (.error (.http cause))
          | .ok response => (f response).run := by
  have hfetch : client.fetchCrumb base =
      .ask ((client.request .get u).withQuery [("xpath", crumbExpression)])
        fun crumbs => .done (crumbIn? crumbs) := by
    rw [HttpClient.fetchCrumb, hu]
    rfl
  rw [Exchange.run_bind, HttpClient.sendChange, hfetch]
  refine congrArg (Dialogue.ask _) (funext fun crumbs => ?_)
  change Dialogue.bind (Exchange.ofExcept ((request.withCrumb (crumbIn? crumbs)).mapError .http) >>=
    Exchange.send).run _ = _
  cases request.withCrumb (crumbIn? crumbs) with
  | error cause => rfl
  | ok request =>
    refine congrArg (Dialogue.ask request) (funext fun answer => ?_)
    cases answer <;> rfl

/-- The rounds along the answers to an exchange. -/
def Exchange.GoesInRounds (e : Exchange α) (own : List Header) (value : α) (postings : List Posting)
    (answers : List HttpAnswer) : Prop :=
  Rounds own value postings answers (e.run.transcript answers).1 (e.run.transcript answers).2

/-- **To send a change is a round.**  What is done with the answer decides what follows. -/
theorem rounds_sendChange {base u : Url} (p : Posting) {f : Response → Exchange α}
    (value : Option HttpAnswer → α) (later : Option HttpAnswer → List Posting)
    (hu : p.endpoint.on base = .ok u) (hne : p.fields ≠ [])
    (hrefused : ∀ response cause, p.failure? (.ok response) = some cause →
      (f response).run = .done (.error cause))
    (hgranted : ∀ response, p.failure? (.ok response) = none → ∀ answers,
      (f response).GoesInRounds (client.ownHeaders base) (value (some (.ok response)))
        (later (some (.ok response))) answers)
    (answers : List HttpAnswer) :
    (client.sendChange base ((client.request .post u).withQuery p.fields) >>= f).GoesInRounds
      (client.ownHeaders base) (value answers[1]?) (p :: later answers[1]?) answers := by
  obtain ⟨c, hc⟩ : ∃ c, Endpoint.crumb.on base = .ok c :=
    ⟨_, Endpoint.crumb.on_of_isOpaque_eq_false (Endpoint.isOpaque_of_on hu)⟩
  have hcrumb := asksForCrumb_request client hc
  unfold Exchange.GoesInRounds
  rw [run_sendChange_bind hc]
  cases answers with
  | nil => exact .waitsForCrumb hcrumb
  | cons crumbs answers =>
    by_cases hgood : HasNoBadCrumb crumbs
    · have hchange := asksFor_request client hu hne (crumbHeader? crumbs)
      simp only [Dialogue.transcript, withCrumb_of_hasNoBadCrumb hgood]
      cases answers with
      | nil => exact .waitsForChange hcrumb hgood hchange
      | cons answer answers =>
        cases answer with
        | error cause => cases answers <;> exact .refused hcrumb hgood hchange rfl
        | ok response =>
          cases hf : p.failure? (.ok response) with
          | some cause =>
            simp only [Dialogue.transcript, hrefused response cause hf]
            exact .refused hcrumb hgood hchange hf
          | none => exact .granted hcrumb hgood hchange hf (hgranted response hf answers)
    · simp only [Dialogue.transcript, withCrumb_of_not_hasNoBadCrumb hgood]
      exact .badCrumb hcrumb hgood

/-! ## The calls -/

section Labels

variable {url : Url} {change : LabelChange} {name : String}

/-- **Chunks of labels are sent in rounds**, one for each. -/
theorem rounds_sendChunks (hu : change.endpoint.on candidate.url = .ok url) (value : α)
    (chunks : List String) (answers : List HttpAnswer) :
    (client.sendChunks candidate url change name chunks >>= fun _ => pure value).GoesInRounds
      (client.ownHeaders candidate.url) value
      (chunks.map fun chunk => ⟨change.endpoint, change.operation,
        [("name", name), ("secret", candidate.secret), ("labels", chunk)]⟩) answers := by
  induction chunks generalizing answers with
  | nil => cases answers <;> exact .finished _
  | cons chunk chunks ih =>
    simp only [HttpClient.sendChunks, HttpClient.sendChunk, bind_assoc, List.map_cons]
    have hop : change.operation ≠ .createNode := by cases change <;> decide
    refine rounds_sendChange ⟨change.endpoint, change.operation, _⟩ (fun _ => value) (fun _ => _) hu
      (List.cons_ne_nil _ _) ?_ ?_ answers
    · intro response cause hf
      rw [Posting.failure?, if_neg hop] at hf
      obtain ⟨hok, rfl⟩ := Posting.refusal?_eq_some hf
      simp only [hok]
      rfl
    · intro response hf answers
      obtain ⟨_, ⟨⟩, hok⟩ := Posting.isOk_of_failure?_eq_none hf
      simp only [hok]
      exact ih answers

/-- **Labels are changed in rounds.** -/
theorem rounds_changeLabels (hu : change.endpoint.on candidate.url = .ok url) (labels : LabelSet)
    (value : α) (answers : List HttpAnswer) :
    (client.changeLabels candidate change name labels >>= fun _ => pure value).GoesInRounds
      (client.ownHeaders candidate.url) value (change.postings candidate.secret name labels)
      answers := by
  rw [HttpClient.changeLabels, hu]
  exact rounds_sendChunks hu value labels.chunks answers

theorem rounds_changeLabels_self (hu : change.endpoint.on candidate.url = .ok url) (labels : LabelSet)
    (answers : List HttpAnswer) :
    (client.changeLabels candidate change name labels).GoesInRounds (client.ownHeaders candidate.url)
      () (change.postings candidate.secret name labels) answers := by
  have hrounds := @rounds_changeLabels client candidate Unit url change name hu labels () answers
  rwa [bind_pure_unit] at hrounds

end Labels

/-- The name of a node that was asked to be created, as far as something has come back. -/
def Registration.finalName (r : Registration) : Option HttpAnswer → String
  | some (.ok response) => response.finalName r.name
  | _ => r.name

/-- The chunks of labels that follow the request for a node. -/
def Registration.deferred (r : Registration) (secret : String) (answer? : Option HttpAnswer) :
    List Posting :=
  if r.defersLabels then LabelChange.adding.postings secret (r.finalName answer?) r.labels else []

/-- **The changes that the registration of a node asks for**, given what comes back. -/
def Registration.postings (r : Registration) (secret : String) (answers : List HttpAnswer) :
    List Posting :=
  ⟨.createNode, .createNode, r.fields secret r.inlineLabels⟩ :: r.deferred secret answers[1]?

/-- **A node is created in rounds**: one for the node, and one for each chunk of labels that did not go
along. -/
theorem rounds_createNode {url : Url} (hu : Endpoint.createNode.on candidate.url = .ok url)
    (r : Registration) (answers : List HttpAnswer) :
    (client.createNode candidate r).GoesInRounds (client.ownHeaders candidate.url)
      (r.finalName answers[1]?) (r.postings candidate.secret answers) answers := by
  rw [HttpClient.createNode, hu]
  refine rounds_sendChange ⟨.createNode, .createNode, _⟩ r.finalName (r.deferred candidate.secret) hu
    (List.cons_ne_nil _ _) ?_ ?_ answers
  · intro response cause hf
    rw [Posting.failure?, if_pos rfl] at hf
    -- The body is read before the status is looked at.
    cases ht : response.text with
    | error cause' =>
      simp only [ht] at hf
      cases hf
      simp only [Exchange.body, ht]
      rfl
    | ok body =>
      simp only [ht] at hf
      obtain ⟨hok, rfl⟩ := Posting.refusal?_eq_some hf
      simp only [Exchange.body, ht, hok]
      rfl
  · intro response hf answers
    obtain ⟨_, ⟨⟩, hok⟩ := Posting.isOk_of_failure?_eq_none hf
    cases ht : response.text with
    | error cause =>
      simp only [Posting.failure?, if_true, ht] at hf
      cases hf
    | ok body =>
      have hname : r.finalName (some (.ok response)) = (announcedName? body).getD r.name := by
        rw [Registration.finalName, Response.finalName, ht]
        rfl
      have hbody : Exchange.body response = pure body := by rw [Exchange.body, ht]; rfl
      rw [hbody, pure_bind, hok, if_neg (by simp), Registration.deferred, hname]
      cases r.defersLabels with
      | false => cases answers <;> exact .finished _
      | true =>
        -- The place for labels lies beneath the same address.
        have hadd := LabelChange.adding.endpoint.on_of_isOpaque_eq_false (Endpoint.isOpaque_of_on hu)
        exact rounds_changeLabels hadd r.labels _ answers

end Calls

/-! ## What a server sees of a call -/

section Laws

variable {α : Type} (e : Exchange α)

/-- **A call whose requests alternate**, whatever comes back to them. -/
structure Exchange.Alternates (own : List Header) (postings : List HttpAnswer → List Posting) : Prop where
  /-- Every other request, from the first on, asks for a crumb. -/
  crumb_request : ∀ answers i q, (e.run.questions answers)[2 * i]? = some q → q.AsksForCrumb own
  /-- The requests between ask for the changes in turn.  The header of a crumb comes from the answer to
  the request right before. -/
  change_request : ∀ answers i q, (e.run.questions answers)[2 * i + 1]? = some q →
    ∃ p crumbs, (postings answers)[i]? = some p ∧ answers[2 * i]? = some crumbs ∧
      q.AsksFor p own (crumbHeader? crumbs)

/-- **A call whose changes wait for crumbs only**, whatever comes back to its requests. -/
structure Exchange.AsksBehindCrumbs (own : List Header) (postings : List HttpAnswer → List Posting) : Prop
    extends e.Alternates own postings where
  /-- The call starts with a request for a crumb. -/
  starts : ∀ answers, postings answers ≠ [] → 0 < (e.run.questions answers).length
  /-- Behind a change that was granted there is a request for the crumb of the next one. -/
  goes_on : ∀ answers i p answer, 2 * i + 1 < (e.run.questions answers).length →
    (postings answers)[i]? = some p → answers[2 * i + 1]? = some answer → p.failure? answer = none →
    i + 1 < (postings answers).length → 2 * (i + 1) < (e.run.questions answers).length
  /-- Once the request for a crumb is answered, the change is asked for unless the crumb is bad. -/
  asked_iff : ∀ answers i crumbs, 2 * i < (e.run.questions answers).length →
    answers[2 * i]? = some crumbs →
    (2 * i + 1 < (e.run.questions answers).length ↔ HasNoBadCrumb crumbs)
  /-- A bad crumb ends the call. -/
  spoiled : ∀ answers i crumbs, 2 * i < (e.run.questions answers).length →
    answers[2 * i]? = some crumbs → ¬ HasNoBadCrumb crumbs →
    (e.run.transcript answers).2 = some (.error (.http .badRequest))

/-- **A call that changes something in an orderly way**, whatever comes back to its requests. -/
structure Exchange.IsOrderly (own : List Header) (postings : List HttpAnswer → List Posting) : Prop
    extends e.AsksBehindCrumbs own postings where
  /-- A change that is not answered with the status 200 fails. -/
  refused : ∀ answers i answer, 2 * i + 1 < (e.run.questions answers).length →
    answers[2 * i + 1]? = some answer →
    (∀ response, answer = .ok response → response.isOk = false) →
    ∃ p cause, (postings answers)[i]? = some p ∧ p.failure? answer = some cause
  /-- Nothing follows the first change that fails, and the call fails with what was wrong. -/
  failed : ∀ answers i p answer cause, 2 * i + 1 < (e.run.questions answers).length →
    (postings answers)[i]? = some p → answers[2 * i + 1]? = some answer →
    p.failure? answer = some cause →
    (e.run.questions answers).length = 2 * i + 2 ∧
      (e.run.transcript answers).2 = some (.error cause)
  /-- A call that succeeds has asked for all changes, and each was answered with the status 200. -/
  succeeded : ∀ answers a, (e.run.transcript answers).2 = some (.ok a) →
    (e.run.questions answers).length = 2 * (postings answers).length ∧
      ∀ i, i < (postings answers).length →
        ∃ response, answers[2 * i + 1]? = some (.ok response) ∧ response.isOk = true
  /-- A call succeeds if all changes are granted. -/
  granted : ∀ answers, GrantsAll (postings answers) answers →
    ∃ a, (e.run.transcript answers).2 = some (.ok a)
  /-- A call that fails ends with a bad crumb, and then the failure is one of HTTP, or with a change whose
  failure it is. -/
  ends : ∀ answers cause, (e.run.transcript answers).2 = some (.error cause) →
    (∃ i crumbs, (e.run.questions answers).length = 2 * i + 1 ∧ answers[2 * i]? = some crumbs ∧
      ¬ HasNoBadCrumb crumbs ∧ cause = .http .badRequest) ∨
    ∃ i p answer, (e.run.questions answers).length = 2 * i + 2 ∧ (postings answers)[i]? = some p ∧
      answers[2 * i + 1]? = some answer ∧ p.failure? answer = some cause

/-- **A call that fails at once**, without a request. -/
def Exchange.FailsAtOnce : Prop :=
  ∃ detail, e.run = .done (.error (.malformed .address detail))

/-- **A call that carries credentials**, if there are any, whatever comes back to its requests. -/
structure Exchange.CarriesCredentials (credentials : Option Credentials) : Prop where
  /-- Credentials are on every request. -/
  always : ∀ c, credentials = some c → ∀ answers, ∀ q ∈ e.run.questions answers,
    c.authorization ∈ q.headers
  /-- A request has no other authorization, unless it asks for a change and the crumb right before is one
  by its name. -/
  otherwise : ∀ answers i q header, (e.run.questions answers)[i]? = some q → header ∈ q.headers →
    header.1 = "authorization" →
    (∃ c, credentials = some c ∧ header = c.authorization) ∨
      ∃ j crumbs, i = 2 * j + 1 ∧ answers[2 * j]? = some crumbs ∧ crumbHeader? crumbs = some header

end Laws

section Orderly

variable {α : Type} {own : List Header} {postings : List HttpAnswer → List Posting} {e : Exchange α}

/-! ### Calls that go in rounds -/

section Rounds

variable {value : List HttpAnswer → α}

/-- The requests of a call that goes in rounds alternate. -/
theorem Exchange.Alternates.of_rounds
    (h : ∀ answers, e.GoesInRounds own (value answers) (postings answers) answers) :
    e.Alternates own postings := by
  constructor
  · intro answers i q hq
    exact (h answers).crumb_request hq
  · intro answers i q hq
    obtain ⟨p, crumbs, hp, hc, -, hasks⟩ := (h answers).change_request hq
    exact ⟨p, crumbs, hp, hc, hasks⟩

/-- Calls that go in rounds wait for crumbs only. -/
theorem Exchange.AsksBehindCrumbs.of_rounds
    (h : ∀ answers, e.GoesInRounds own (value answers) (postings answers) answers) :
    e.AsksBehindCrumbs own postings := by
  refine ⟨.of_rounds h, ?_, ?_, ?_, ?_⟩
  · intro answers hne
    exact List.length_pos_iff.mpr ((h answers).ne_nil hne)
  · intro answers i p answer hi hp ha hf hmore
    exact (h answers).lt_of_granted hi hp ha hf hmore
  · intro answers i crumbs hi hc
    constructor
    · intro hasked
      by_contra hbad
      have hend := ((h answers).end_of_bad_crumb hi hc hbad).1
      change (e.run.questions answers).length = _ at hend
      omega
    · intro hgood
      exact (h answers).lt_of_hasNoBadCrumb hi hc hgood
  · intro answers i crumbs hi hc hbad
    exact ((h answers).end_of_bad_crumb hi hc hbad).2

/-- **A call that goes in rounds is orderly.** -/
theorem Exchange.IsOrderly.of_rounds
    (h : ∀ answers, e.GoesInRounds own (value answers) (postings answers) answers) :
    e.IsOrderly own postings := by
  refine ⟨.of_rounds h, ?_, ?_, ?_, ?_, ?_⟩
  · intro answers i answer hi ha hbad
    obtain ⟨p, crumbs, hp, -⟩ := (h answers).change_request (List.getElem?_eq_getElem hi)
    -- A change without a failure was answered with the status 200, which this one was not.
    cases hf : p.failure? answer with
    | none =>
      obtain ⟨response, hresponse, hok⟩ := Posting.isOk_of_failure?_eq_none hf
      rw [hbad response hresponse] at hok
      cases hok
    | some cause => exact ⟨p, cause, hp, hf⟩
  · intro answers i p answer cause hi hp ha hf
    exact (h answers).end_of_failure hi hp ha hf
  · intro answers a hr
    obtain ⟨hlength, hall⟩ := (h answers).end_of_ok hr
    refine ⟨hlength, ?_⟩
    intro i hi
    obtain ⟨answer, ha, hf⟩ := hall i _ (List.getElem?_eq_getElem hi)
    obtain ⟨response, rfl, hok⟩ := Posting.isOk_of_failure?_eq_none hf
    exact ⟨response, ha, hok⟩
  · intro answers hall
    exact ⟨_, (h answers).ok_of_grantsAll hall⟩
  · intro answers cause hr
    exact (h answers).end_of_error hr

end Rounds

/-! ### Calls without requests -/

theorem Exchange.FailsAtOnce.questions_eq_nil (h : e.FailsAtOnce) (answers : List HttpAnswer) :
    e.run.questions answers = [] := by
  obtain ⟨detail, hrun⟩ := h
  rw [hrun, questions_done]

theorem Exchange.FailsAtOnce.alternates (h : e.FailsAtOnce) : e.Alternates own postings := by
  constructor
  · intro answers i q hq
    simp [h.questions_eq_nil] at hq
  · intro answers i q hq
    simp [h.questions_eq_nil] at hq

/-! ### Credentials -/

/-- A call whose requests have the credentials as their own headers carries them. -/
theorem Exchange.Alternates.carriesCredentials {credentials : Option Credentials}
    (h : e.Alternates (credentials.map (·.authorization)).toList postings) :
    e.CarriesCredentials credentials := by
  have hheaders : ∀ answers i q, (e.run.questions answers)[i]? = some q →
      ∃ crumb : Option Header, q.headers = (credentials.map (·.authorization)).toList ++ crumb.toList ∧
        ∀ header, crumb = some header →
          ∃ j crumbs, i = 2 * j + 1 ∧ answers[2 * j]? = some crumbs ∧ crumbHeader? crumbs = some header := by
    intro answers i q hq
    rcases Nat.even_or_odd' i with ⟨j, rfl | rfl⟩
    · refine ⟨none, ?_, nofun⟩
      rw [(h.crumb_request answers j q hq).headers_eq]
      simp
    · obtain ⟨p, crumbs, -, hc, hasks⟩ := h.change_request answers j q hq
      exact ⟨crumbHeader? crumbs, hasks.headers_eq, fun header hh => ⟨j, crumbs, rfl, hc, hh⟩⟩
  constructor
  · rintro c rfl answers q hq
    obtain ⟨i, hi, rfl⟩ := List.getElem_of_mem hq
    obtain ⟨crumb, heq, -⟩ := hheaders answers i _ (List.getElem?_eq_getElem hi)
    simp [heq]
  · intro answers i q header hq hheader _
    obtain ⟨crumb, heq, hcrumb⟩ := hheaders answers i q hq
    rw [heq] at hheader
    rcases List.mem_append.mp hheader with hown | hadded
    · obtain ⟨c, hc, rfl⟩ := Option.map_eq_some_iff.mp (Option.mem_toList.mp hown)
      exact .inl ⟨c, hc, rfl⟩
    · exact .inr (hcrumb header (Option.mem_toList.mp hadded))

end Orderly

/-! ## The laws of the calls -/

section Client

variable (client : HttpClient) (candidate : Candidate)

/-- **Without a place for nodes a registration fails at once.** -/
theorem failsAtOnce_createNode (h : candidate.url.isOpaque = true) (r : Registration) :
    (client.createNode candidate r).FailsAtOnce := by
  obtain ⟨detail, hu⟩ := Endpoint.createNode.exists_on_eq_error h
  refine ⟨detail, ?_⟩
  rw [HttpClient.createNode, hu]
  rfl

theorem failsAtOnce_changeLabels (h : candidate.url.isOpaque = true) (change : LabelChange)
    (name : String) (labels : LabelSet) :
    (client.changeLabels candidate change name labels).FailsAtOnce := by
  obtain ⟨detail, hu⟩ := change.endpoint.exists_on_eq_error h
  refine ⟨detail, ?_⟩
  rw [HttpClient.changeLabels, hu]
  rfl

theorem isOrderly_createNode (h : candidate.url.isOpaque = false) (r : Registration) :
    (client.createNode candidate r).IsOrderly (client.ownHeaders candidate.url)
      (r.postings candidate.secret) :=
  .of_rounds (rounds_createNode (Endpoint.createNode.on_of_isOpaque_eq_false h) r)

theorem isOrderly_changeLabels (h : candidate.url.isOpaque = false) (change : LabelChange)
    (name : String) (labels : LabelSet) :
    (client.changeLabels candidate change name labels).IsOrderly (client.ownHeaders candidate.url)
      fun _ => change.postings candidate.secret name labels :=
  .of_rounds (rounds_changeLabels_self (change.endpoint.on_of_isOpaque_eq_false h) labels)

/-- **The requests of a registration alternate**, if there are any. -/
theorem alternates_createNode (r : Registration) :
    (client.createNode candidate r).Alternates (client.ownHeaders candidate.url)
      (r.postings candidate.secret) := by
  cases h : candidate.url.isOpaque with
  | true => exact (failsAtOnce_createNode client candidate h r).alternates
  | false => exact (isOrderly_createNode client candidate h r).toAlternates

theorem alternates_changeLabels (change : LabelChange) (name : String) (labels : LabelSet) :
    (client.changeLabels candidate change name labels).Alternates (client.ownHeaders candidate.url)
      fun _ => change.postings candidate.secret name labels := by
  cases h : candidate.url.isOpaque with
  | true => exact (failsAtOnce_changeLabels client candidate h change name labels).alternates
  | false => exact (isOrderly_changeLabels client candidate h change name labels).toAlternates

/-- Without a user name in the address, the client adds just its own credentials. -/
theorem ownHeaders_of_userinfo?_eq_none (h : candidate.url.userinfo? = none) :
    client.ownHeaders candidate.url = (client.credentials.map (·.authorization)).toList := by
  rw [HttpClient.ownHeaders, userinfoAuthorization, h]
  rfl

/-- **What a server sees of the calls** that change something.  Requests for crumbs and changes
alternate, the changes are those that the call is for, and the first one that fails ends the call.  Where
nothing lies beneath the address, a call fails without a request.  Every request has the credentials of
the client, if there are any, and no header besides them but that of a crumb. -/
theorem calls_are_orderly (h : candidate.url.userinfo? = none) :
    (candidate.url.isOpaque = false →
      (∀ r : Registration, (client.createNode candidate r).IsOrderly
        (client.credentials.map (·.authorization)).toList (r.postings candidate.secret)) ∧
      (∀ name labels, (client.addLabels candidate name labels).IsOrderly
        (client.credentials.map (·.authorization)).toList
        fun _ => LabelChange.adding.postings candidate.secret name labels) ∧
      ∀ name labels, (client.removeLabels candidate name labels).IsOrderly
        (client.credentials.map (·.authorization)).toList
        fun _ => LabelChange.removing.postings candidate.secret name labels) ∧
    (candidate.url.isOpaque = true →
      (∀ r : Registration, (client.createNode candidate r).FailsAtOnce) ∧
      (∀ name labels, (client.addLabels candidate name labels).FailsAtOnce) ∧
      ∀ name labels, (client.removeLabels candidate name labels).FailsAtOnce) ∧
    (∀ r : Registration, (client.createNode candidate r).CarriesCredentials client.credentials) ∧
    (∀ name labels, (client.addLabels candidate name labels).CarriesCredentials client.credentials) ∧
    ∀ name labels, (client.removeLabels candidate name labels).CarriesCredentials client.credentials := by
  have hown := ownHeaders_of_userinfo?_eq_none client candidate h
  rw [← hown]
  have hcreate := alternates_createNode client candidate
  have hchange := alternates_changeLabels client candidate
  rw [hown] at hcreate hchange
  refine ⟨?_, ?_, ?_, ?_, ?_⟩
  · intro hplaces
    exact ⟨isOrderly_createNode client candidate hplaces,
      isOrderly_changeLabels client candidate hplaces .adding,
      isOrderly_changeLabels client candidate hplaces .removing⟩
  · intro hnone
    exact ⟨failsAtOnce_createNode client candidate hnone,
      failsAtOnce_changeLabels client candidate hnone .adding,
      failsAtOnce_changeLabels client candidate hnone .removing⟩
  · intro r
    exact (hcreate r).carriesCredentials
  · intro name labels
    exact (hchange .adding name labels).carriesCredentials
  · intro name labels
    exact (hchange .removing name labels).carriesCredentials

end Client

/-- The second request to take a label away has a crumb and credentials, and it is refused. -/
theorem calls_are_orderly_of_refusal :
    let client : HttpClient := { credentials := some ⟨"agent", "word"⟩ }
    let candidate : Candidate :=
      ⟨{ scheme := "http", authority := some { host := .name "ci" }, path := "/" }, "key"⟩
    let answers : List HttpAnswer :=
      [.ok { status := 200, body := .ok (encodeUtf8 "Crumb:1") }, .ok { status := 403 }]
    let call := client.removeLabels candidate "builder" (.parse "gpu")
    candidate.url.userinfo? = none ∧ candidate.url.isOpaque = false ∧
      (call.run.questions answers).length = 2 ∧
      (call.run.transcript answers).2 = some (.error (.badStatus .removeLabels 403 "")) ∧
      ∀ q, (call.run.questions answers)[1]? = some q →
        q.headers = [("authorization", "Basic YWdlbnQ6d29yZA=="), ("crumb", "1")] := by
  intro client candidate answers call
  have hnone : candidate.url.userinfo? = none := rfl
  have hplaces : candidate.url.isOpaque = false := by decide
  obtain ⟨horderly, -⟩ := calls_are_orderly client candidate hnone
  have hcall := (horderly hplaces).2.2 "builder" (.parse "gpu")
  have hfirst : (LabelChange.removing.postings "key" "builder" (.parse "gpu"))[0]? =
      some ⟨.removeLabels, .removeLabels,
        [("name", "builder"), ("secret", "key"), ("labels", "gpu")]⟩ := by
    decide +kernel
  -- The call starts with a request for a crumb, which is good, and so the change is asked for.
  have hstarts : 2 * 0 < (call.run.questions answers).length := by
    refine hcall.starts answers fun hnil => ?_
    rw [hnil] at hfirst
    cases hfirst
  have hgood : HasNoBadCrumb (.ok { status := 200, body := .ok (encodeUtf8 "Crumb:1") }) := by
    have hcrumb : crumbIn? (.ok { status := 200, body := .ok (encodeUtf8 "Crumb:1") }) =
        some ⟨"Crumb", "1"⟩ := by
      decide +kernel
    intro crumb hsome
    obtain rfl := Option.some.inj (hcrumb.symm.trans hsome)
    decide +kernel
  have hasked : 2 * 0 + 1 < (call.run.questions answers).length :=
    (hcall.asked_iff answers 0 _ hstarts rfl).mpr hgood
  obtain ⟨hlength, hresult⟩ := hcall.failed answers 0 _ _ _ hasked hfirst rfl rfl
  refine ⟨hnone, hplaces, hlength, hresult, ?_⟩
  intro q hq
  obtain ⟨p, crumbs, -, hc, hasks⟩ := hcall.change_request answers 0 q hq
  obtain rfl := Option.some.inj hc
  rw [hasks.headers_eq]
  decide +kernel

/-- **A crumb may be an authorization by its name.**  The client has no credentials, and the change is
asked for with those in the crumb. -/
theorem crumb_brings_authorization :
    let client : HttpClient := {}
    let candidate : Candidate :=
      ⟨{ scheme := "http", authority := some { host := .name "ci" }, path := "/" }, "key"⟩
    let crumbs : HttpAnswer :=
      .ok { status := 200, body := .ok (encodeUtf8 "Authorization:Basic QQ==") }
    let call := client.addLabels candidate "builder" (.parse "gpu")
    client.credentials = none ∧ candidate.url.userinfo? = none ∧
      ∃ q, (call.run.questions [crumbs])[1]? = some q ∧
        ("authorization", "Basic QQ==") ∈ q.headers := by
  intro client candidate crumbs call
  have hheaders : ((call.run.questions [crumbs])[1]?).map (·.headers) =
      some [("authorization", "Basic QQ==")] := by
    decide +kernel
  obtain ⟨q, hq, heq⟩ := Option.map_eq_some_iff.mp hheaders
  exact ⟨rfl, rfl, q, hq, by simp [heq]⟩

/-! ## Crumbs and changes -/

/-- **A change is asked for unless there is a bad crumb.**  A request for a crumb that fails, or that is
answered with something else, does no harm. -/
theorem change_asked_iff_no_bad_crumb (client : HttpClient) (candidate : Candidate)
    (h : candidate.url.isOpaque = false) :
    (∀ r : Registration, (client.createNode candidate r).AsksBehindCrumbs
      (client.ownHeaders candidate.url) (r.postings candidate.secret)) ∧
    (∀ name labels, (client.addLabels candidate name labels).AsksBehindCrumbs
      (client.ownHeaders candidate.url)
      fun _ => LabelChange.adding.postings candidate.secret name labels) ∧
    ∀ name labels, (client.removeLabels candidate name labels).AsksBehindCrumbs
      (client.ownHeaders candidate.url)
      fun _ => LabelChange.removing.postings candidate.secret name labels := by
  refine ⟨?_, ?_, ?_⟩
  · intro r
    exact (isOrderly_createNode client candidate h r).toAsksBehindCrumbs
  · intro name labels
    exact (isOrderly_changeLabels client candidate h .adding name labels).toAsksBehindCrumbs
  · intro name labels
    exact (isOrderly_changeLabels client candidate h .removing name labels).toAsksBehindCrumbs

/-- A page without a colon is no crumb, and the label is asked for without one. -/
theorem change_asked_of_page :
    let candidate : Candidate :=
      ⟨{ scheme := "http", authority := some { host := .name "ci" }, path := "/" }, "key"⟩
    let page : HttpAnswer := .ok { status := 200, body := .ok (encodeUtf8 "<p>Sign in</p>") }
    let call := ({} : HttpClient).addLabels candidate "builder" (.parse "gpu")
    candidate.url.isOpaque = false ∧ crumbIn? page = none ∧
      1 < (call.run.questions [page]).length := by
  intro candidate page call
  have hbase : candidate.url.isOpaque = false := by decide
  have hnone : crumbIn? page = none := by decide +kernel
  obtain ⟨-, hadd, -⟩ := change_asked_iff_no_bad_crumb {} candidate hbase
  have hcall := hadd "builder" (.parse "gpu")
  have hpositive : (LabelChange.adding.postings "key" "builder" (.parse "gpu")) ≠ [] := by
    decide +kernel
  refine ⟨hbase, hnone, (hcall.asked_iff [page] 0 page (hcall.starts _ hpositive) rfl).mpr ?_⟩
  intro crumb hcrumb
  cases hnone.symm.trans hcrumb

/-- **A page that reads like a crumb** spoils the change: its name cannot be the name of a header, and
the label is never asked for. -/
theorem page_spoils_change :
    let candidate : Candidate :=
      ⟨{ scheme := "http", authority := some { host := .name "ci" }, path := "/" }, "key"⟩
    let page : HttpAnswer := .ok { status := 200, body := .ok (encodeUtf8 "<p>Sign in: required</p>") }
    let call := ({} : HttpClient).addLabels candidate "builder" (.parse "gpu")
    crumbIn? page = some ⟨"<p>Sign in", "required</p>"⟩ ∧
      (call.run.questions [page]).length = 1 ∧
      (call.run.transcript [page]).2 = some (.error (.http .badRequest)) := by
  decide +kernel

end NodeAgent
