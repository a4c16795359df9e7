import NodeAgent.Proofs.Coordinator.Endpoint
import NodeAgent.Proofs.Coordinator.Exchange

/-!
# Rounds of requests

A call that changes something goes in rounds.  A round asks for a crumb and then, with the crumb if
there is one, for a change.  The first change that is refused ends the call, as does a crumb that cannot
be put into a header.

## Main definitions

* `crumbHeader?`, `HasNoBadCrumb`: the header that comes of the answer to a request for a crumb.
* `Posting`, `Posting.failure?`: a change that is asked for, and the failure of one that is refused.
* `Request.AsksForCrumb`, `Request.AsksFor`: the two requests of a round.
* `Rounds`: the rounds along a list of answers.
* `GrantsAll`: answers to rounds that end well.

## Main results

* `Rounds.crumb_request`, `Rounds.change_request`: the requests alternate, and a change is asked for with
  the crumb that came right before.
* `Rounds.end_of_bad_crumb`, `Rounds.end_of_failure`: what ends the rounds.
* `Rounds.end_of_ok`, `Rounds.ok_of_grantsAll`: rounds that end well.
* `Rounds.end_of_error`: what rounds that fail have failed with.
-/

namespace NodeAgent

open Dialogue

/-- What comes back to a request. -/
abbrev HttpAnswer := Except HttpError Response

/-! ## Crumbs -/

/-- The crumb in an answer, if it has one. -/
def crumbIn? (answer : HttpAnswer) : Option Crumb :=
  answer.toOption.bind Response.crumb?

/-- **The header that the crumb in an answer stands for.** -/
def crumbHeader? (answer : HttpAnswer) : Option Header :=
  (crumbIn? answer).bind fun crumb => header? crumb.name crumb.value

/-- **An answer without a bad crumb**: it has none, or one that can be put into a header. -/
def HasNoBadCrumb (answer : HttpAnswer) : Prop :=
  ∀ crumb, crumbIn? answer = some crumb → (header? crumb.name crumb.value).isSome = true

theorem withCrumb_of_hasNoBadCrumb {answer : HttpAnswer} (h : HasNoBadCrumb answer) (r : Request) :
    r.withCrumb (crumbIn? answer) =
      .ok { r with headers := r.headers ++ (crumbHeader? answer).toList } := by
  rw [crumbHeader?]
  cases hc : crumbIn? answer with
  | none => simp [Request.withCrumb]
  | some crumb =>
    obtain ⟨header, hh⟩ := Option.isSome_iff_exists.mp (h crumb hc)
    simp [Request.withCrumb, Request.withHeader, hh]

theorem withCrumb_of_not_hasNoBadCrumb {answer : HttpAnswer} (h : ¬ HasNoBadCrumb answer)
    (r : Request) : r.withCrumb (crumbIn? answer) = .error .badRequest := by
  unfold HasNoBadCrumb at h
  push Not at h
  -- There is a crumb, and no header can be made of it.
  obtain ⟨crumb, hc, hh⟩ := h
  have hnone : header? crumb.name crumb.value = none := by simpa using hh
  simp [hc, Request.withCrumb, hnone]

/-! ## Changes that are asked for -/

/-- **A change that is asked for**: where, what it is called in messages, and with which fields. -/
structure Posting where
  endpoint : Endpoint
  operation : Operation
  fields : List (String × String)
deriving DecidableEq

namespace Posting

/-- The failure that a status other than 200 means. -/
def refusal? (p : Posting) (response : Response) : Option ProtocolError :=
  if response.isOk then none
  else some (.badStatus p.operation response.status (response.text.toOption.getD ""))

/-- **The failure of a change that is refused.**  Where a node is created, the body of the answer is read
first. -/
def failure? (p : Posting) : HttpAnswer → Option ProtocolError
  | .error cause => some (.http cause)
  | .ok response =>
    if p.operation = .createNode then
      match response.text with
      | .error cause => some (.http cause)
      | .ok _ => p.refusal? response
    else p.refusal? response

theorem isOk_of_refusal?_eq_none {p : Posting} {response : Response}
    (h : p.refusal? response = none) : response.isOk = true := by
  unfold refusal? at h
  split at h
  · assumption
  · cases h

theorem refusal?_eq_some {p : Posting} {response : Response} {cause : ProtocolError}
    (h : p.refusal? response = some cause) : response.isOk = false ∧
      cause = .badStatus p.operation response.status (response.text.toOption.getD "") := by
  unfold refusal? at h
  split at h
  · cases h
  · next hok => exact ⟨by simpa using hok, (Option.some.inj h).symm⟩

/-- **A change is granted with the status 200 only.** -/
theorem isOk_of_failure?_eq_none {p : Posting} {answer : HttpAnswer} (h : p.failure? answer = none) :
    ∃ response, answer = .ok response ∧ response.isOk = true := by
  cases answer with
  | error cause => cases h
  | ok response =>
    refine ⟨response, rfl, ?_⟩
    rw [failure?] at h
    split at h
    · split at h
      · cases h
      · exact isOk_of_refusal?_eq_none h
    · exact isOk_of_refusal?_eq_none h

end Posting

/-- The chunks in which labels are changed. -/
def LabelChange.postings (change : LabelChange) (secret name : String) (labels : LabelSet) :
    List Posting :=
  labels.chunks.map fun chunk =>
    ⟨change.endpoint, change.operation, [("name", name), ("secret", secret), ("labels", chunk)]⟩

/-! ## The requests of a round -/

/-- The headers that the client puts on every request to a coordinator. -/
def HttpClient.ownHeaders (client : HttpClient) (url : Url) : List Header :=
  userinfoAuthorization url ++ (client.credentials.map (·.authorization)).toList

/-- **A request for a crumb.** -/
structure Request.AsksForCrumb (q : Request) (own : List Header) : Prop where
  method_eq : q.method = .get
  isFor : q.IsFor .crumb [("xpath", crumbExpression)]
  headers_eq : q.headers = own

/-- **A request for a change**, with the header of a crumb if there is one. -/
structure Request.AsksFor (q : Request) (p : Posting) (own : List Header)
    (crumbHeader : Option Header) : Prop where
  method_eq : q.method = .post
  isFor : q.IsFor p.endpoint p.fields
  headers_eq : q.headers = own ++ crumbHeader.toList

section Requests

variable (client : HttpClient) {base u : Url} {e : Endpoint}

/-- Places beneath a coordinator have its user name and password. -/
theorem headers_request (h : e.on base = .ok u) (method : Method) :
    (client.request method u).headers = client.ownHeaders base := by
  have hu : u.userinfo? = base.userinfo? := by rw [Endpoint.on_eq h]; rfl
  simp only [HttpClient.request, HttpClient.ownHeaders, userinfoAuthorization, hu]

theorem asksForCrumb_request (h : Endpoint.crumb.on base = .ok u) :
    ((client.request .get u).withQuery [("xpath", crumbExpression)]).AsksForCrumb
      (client.ownHeaders base) :=
  ⟨rfl, .of_request h client .get _ (List.cons_ne_nil _ _), headers_request client h .get⟩

theorem asksFor_request {p : Posting} (h : p.endpoint.on base = .ok u) (hne : p.fields ≠ [])
    (crumbHeader : Option Header) :
    Request.AsksFor
      { (client.request .post u).withQuery p.fields with
        headers := ((client.request .post u).withQuery p.fields).headers ++ crumbHeader.toList }
      p (client.ownHeaders base) crumbHeader := by
  have hfor := Request.IsFor.of_request h client .post p.fields hne
  refine ⟨rfl, ⟨hfor.isAt, hfor.fields_eq⟩, ?_⟩
  change (client.request .post u).headers ++ _ = _
  rw [headers_request client h]

end Requests

/-! ## Rounds -/

/-- **Rounds along a list of answers**: the changes that are asked for, the requests, and the result when
the answers suffice.  The value is the result of a call that succeeds. -/
inductive Rounds {α : Type} (own : List Header) (value : α) :
    List Posting → List HttpAnswer → List Request → Option (Except ProtocolError α) → Prop
  /-- All changes were granted. -/
  | finished (answers : List HttpAnswer) : Rounds own value [] answers [] (some (.ok value))
  /-- Nothing has come back to the request for a crumb. -/
  | waitsForCrumb {p : Posting} {later : List Posting} {q : Request} (hq : q.AsksForCrumb own) :
      Rounds own value (p :: later) [] [q] none
  /-- The crumb cannot be put into a header, and the change is not asked for. -/
  | badCrumb {p : Posting} {later : List Posting} {q : Request} {crumbs : HttpAnswer}
      {answers : List HttpAnswer} (hq : q.AsksForCrumb own) (hc : ¬ HasNoBadCrumb crumbs) :
      Rounds own value (p :: later) (crumbs :: answers) [q] (some (.error (.http .badRequest)))
  /-- Nothing has come back to the request for the change. -/
  | waitsForChange {p : Posting} {later : List Posting} {q q' : Request} {crumbs : HttpAnswer}
      (hq : q.AsksForCrumb own) (hc : HasNoBadCrumb crumbs)
      (hq' : q'.AsksFor p own (crumbHeader? crumbs)) :
      Rounds own value (p :: later) [crumbs] [q, q'] none
  /-- The change is refused. -/
  | refused {p : Posting} {later : List Posting} {q q' : Request} {crumbs answer : HttpAnswer}
      {answers : List HttpAnswer} {cause : ProtocolError} (hq : q.AsksForCrumb own)
      (hc : HasNoBadCrumb crumbs) (hq' : q'.AsksFor p own (crumbHeader? crumbs))
      (hf : p.failure? answer = some cause) :
      Rounds own value (p :: later) (crumbs :: answer :: answers) [q, q'] (some (.error cause))
  /-- The change is granted, and the next round follows. -/
  | granted {p : Posting} {later : List Posting} {q q' : Request} {crumbs answer : HttpAnswer}
      {answers : List HttpAnswer} {requests : List Request} {result : Option (Except ProtocolError α)}
      (hq : q.AsksForCrumb own) (hc : HasNoBadCrumb crumbs)
      (hq' : q'.AsksFor p own (crumbHeader? crumbs)) (hf : p.failure? answer = none)
      (h : Rounds own value later answers requests result) :
      Rounds own value (p :: later) (crumbs :: answer :: answers) (q :: q' :: requests) result

/-- **Answers that grant all changes**: none brings a bad crumb, and no change is refused. -/
def GrantsAll (postings : List Posting) (answers : List HttpAnswer) : Prop :=
  ∀ i p, postings[i]? = some p → ∃ crumbs answer,
    answers[2 * i]? = some crumbs ∧ HasNoBadCrumb crumbs ∧
      answers[2 * i + 1]? = some answer ∧ p.failure? answer = none

/-! ## What is seen of rounds -/

section Rounds

variable {α : Type} {own : List Header} {value : α} {postings : List Posting}
  {answers : List HttpAnswer} {requests : List Request} {result : Option (Except ProtocolError α)}

namespace Rounds

/-- **Behind some rounds there are rounds again.** -/
theorem drop (h : Rounds own value postings answers requests result) {i : Nat}
    (hi : 2 * i < requests.length) :
    Rounds own value (postings.drop i) (answers.drop (2 * i)) (requests.drop (2 * i)) result := by
  induction i generalizing postings answers requests with
  | zero => exact h
  | succ i ih =>
    -- Only a round whose change was granted has others behind it.
    cases h with
    | granted hq hc hq' hf h =>
      refine ih h ?_
      simp only [List.length_cons] at hi
      omega
    | _ =>
      simp only [List.length_cons, List.length_nil] at hi
      omega

/-! ### The first round -/

theorem first_crumb_request {q : Request} {rest : List Request}
    (h : Rounds own value postings answers (q :: rest) result) : q.AsksForCrumb own := by
  cases h with
  | waitsForCrumb hq => exact hq
  | badCrumb hq hc => exact hq
  | waitsForChange hq hc hq' => exact hq
  | refused hq hc hq' hf => exact hq
  | granted hq hc hq' hf h => exact hq

theorem first_change_request {q q' : Request} {rest : List Request}
    (h : Rounds own value postings answers (q :: q' :: rest) result) :
    ∃ p later crumbs others, postings = p :: later ∧ answers = crumbs :: others ∧
      HasNoBadCrumb crumbs ∧ q'.AsksFor p own (crumbHeader? crumbs) := by
  cases h with
  | waitsForChange hq hc hq' => exact ⟨_, _, _, _, rfl, rfl, hc, hq'⟩
  | refused hq hc hq' hf => exact ⟨_, _, _, _, rfl, rfl, hc, hq'⟩
  | granted hq hc hq' hf h => exact ⟨_, _, _, _, rfl, rfl, hc, hq'⟩

theorem first_bad_crumb {crumbs : HttpAnswer} {others : List HttpAnswer} {q : Request}
    {rest : List Request} (h : Rounds own value postings (crumbs :: others) (q :: rest) result)
    (hc : ¬ HasNoBadCrumb crumbs) : rest = [] ∧ result = some (.error (.http .badRequest)) := by
  cases h with
  | badCrumb hq hc' => exact ⟨rfl, rfl⟩
  | waitsForChange hq hc' hq' => exact absurd hc' hc
  | refused hq hc' hq' hf => exact absurd hc' hc
  | granted hq hc' hq' hf h => exact absurd hc' hc

theorem first_good_crumb {crumbs : HttpAnswer} {others : List HttpAnswer} {q : Request}
    {rest : List Request} (h : Rounds own value postings (crumbs :: others) (q :: rest) result)
    (hc : HasNoBadCrumb crumbs) : rest ≠ [] := by
  cases h with
  | badCrumb hq hc' => exact absurd hc hc'
  | waitsForChange hq hc' hq' => exact List.cons_ne_nil _ _
  | refused hq hc' hq' hf => exact List.cons_ne_nil _ _
  | granted hq hc' hq' hf h => exact List.cons_ne_nil _ _

theorem first_failure {p : Posting} {later : List Posting} {crumbs answer : HttpAnswer}
    {others : List HttpAnswer} {q q' : Request} {rest : List Request} {cause : ProtocolError}
    (h : Rounds own value (p :: later) (crumbs :: answer :: others) (q :: q' :: rest) result)
    (hf : p.failure? answer = some cause) : rest = [] ∧ result = some (.error cause) := by
  cases h with
  | refused hq hc hq' hf' =>
    cases hf.symm.trans hf'
    exact ⟨rfl, rfl⟩
  | granted hq hc hq' hf' h => cases hf.symm.trans hf'

theorem ne_nil (h : Rounds own value postings answers requests result) (hp : postings ≠ []) :
    requests ≠ [] := by
  cases h with
  | finished answers => exact absurd rfl hp
  | _ => exact List.cons_ne_nil _ _

theorem first_success {p : Posting} {later : List Posting} {crumbs answer : HttpAnswer}
    {others : List HttpAnswer} {q q' : Request} {rest : List Request}
    (h : Rounds own value (p :: later) (crumbs :: answer :: others) (q :: q' :: rest) result)
    (hf : p.failure? answer = none) : Rounds own value later others rest result := by
  cases h with
  | refused hq hc hq' hf' => cases hf.symm.trans hf'
  | granted hq hc hq' hf' h => exact h

/-! ### All rounds -/

/-- **Every other request, from the first on, asks for a crumb.** -/
theorem crumb_request (h : Rounds own value postings answers requests result) {i : Nat}
    {q : Request} (hq : requests[2 * i]? = some q) : q.AsksForCrumb own := by
  obtain ⟨hi, rfl⟩ := List.getElem?_eq_some_iff.mp hq
  -- The request is the first of the rounds that are left there.
  have hd := h.drop hi
  rw [List.drop_eq_getElem_cons hi] at hd
  exact hd.first_crumb_request

/-- **The requests between ask for the changes**, each with the crumb that came right before it. -/
theorem change_request (h : Rounds own value postings answers requests result) {i : Nat}
    {q : Request} (hq : requests[2 * i + 1]? = some q) :
    ∃ p crumbs, postings[i]? = some p ∧ answers[2 * i]? = some crumbs ∧ HasNoBadCrumb crumbs ∧
      q.AsksFor p own (crumbHeader? crumbs) := by
  obtain ⟨hi, rfl⟩ := List.getElem?_eq_some_iff.mp hq
  have hd := h.drop (Nat.lt_of_succ_lt hi)
  rw [List.drop_eq_getElem_cons (Nat.lt_of_succ_lt hi), List.drop_eq_getElem_cons hi] at hd
  obtain ⟨p, later, crumbs, others, hp, ha, hc, hq'⟩ := hd.first_change_request
  refine ⟨p, crumbs, ?_, ?_, hc, hq'⟩
  · rw [← List.head?_drop, hp]
    rfl
  · rw [← List.head?_drop, ha]
    rfl

/-- **A crumb that cannot be put into a header ends the call.** -/
theorem end_of_bad_crumb (h : Rounds own value postings answers requests result) {i : Nat}
    {crumbs : HttpAnswer} (hi : 2 * i < requests.length) (ha : answers[2 * i]? = some crumbs)
    (hc : ¬ HasNoBadCrumb crumbs) :
    requests.length = 2 * i + 1 ∧ result = some (.error (.http .badRequest)) := by
  obtain ⟨hj, rfl⟩ := List.getElem?_eq_some_iff.mp ha
  have hd := h.drop hi
  rw [List.drop_eq_getElem_cons hi, List.drop_eq_getElem_cons hj] at hd
  obtain ⟨hrest, hr⟩ := hd.first_bad_crumb hc
  have hlength := List.drop_eq_nil_iff.mp hrest
  exact ⟨by omega, hr⟩

/-- **With any other answer to the request for a crumb, the change is asked for.** -/
theorem lt_of_hasNoBadCrumb (h : Rounds own value postings answers requests result) {i : Nat}
    {crumbs : HttpAnswer} (hi : 2 * i < requests.length) (ha : answers[2 * i]? = some crumbs)
    (hc : HasNoBadCrumb crumbs) : 2 * i + 1 < requests.length := by
  obtain ⟨hj, rfl⟩ := List.getElem?_eq_some_iff.mp ha
  have hd := h.drop hi
  rw [List.drop_eq_getElem_cons hi, List.drop_eq_getElem_cons hj] at hd
  have hrest := hd.first_good_crumb hc
  -- Something is left behind the request for the crumb, and that is the change.
  by_contra hlength
  apply hrest
  exact List.drop_eq_nil_iff.mpr (Nat.not_lt.mp hlength)

/-- The round of a request for a change that was answered. -/
theorem drop_of_answered (h : Rounds own value postings answers requests result) {i : Nat}
    {p : Posting} {answer : HttpAnswer} (hi : 2 * i + 1 < requests.length)
    (hp : postings[i]? = some p) (ha : answers[2 * i + 1]? = some answer) :
    ∃ crumbs q q', Rounds own value (p :: postings.drop (i + 1))
      (crumbs :: answer :: answers.drop (2 * i + 2)) (q :: q' :: requests.drop (2 * i + 2)) result := by
  obtain ⟨hk, rfl⟩ := List.getElem?_eq_some_iff.mp hp
  obtain ⟨hj, rfl⟩ := List.getElem?_eq_some_iff.mp ha
  have hd := h.drop (Nat.lt_of_succ_lt hi)
  rw [List.drop_eq_getElem_cons (Nat.lt_of_succ_lt hi), List.drop_eq_getElem_cons hi,
    List.drop_eq_getElem_cons (Nat.lt_of_succ_lt hj), List.drop_eq_getElem_cons hj,
    List.drop_eq_getElem_cons hk] at hd
  exact ⟨_, _, _, hd⟩

/-- **The first change that is refused ends the call.** -/
theorem end_of_failure (h : Rounds own value postings answers requests result) {i : Nat}
    {p : Posting} {answer : HttpAnswer} {cause : ProtocolError} (hi : 2 * i + 1 < requests.length)
    (hp : postings[i]? = some p) (ha : answers[2 * i + 1]? = some answer)
    (hf : p.failure? answer = some cause) :
    requests.length = 2 * i + 2 ∧ result = some (.error cause) := by
  obtain ⟨crumbs, q, q', hd⟩ := h.drop_of_answered hi hp ha
  obtain ⟨hrest, hr⟩ := hd.first_failure hf
  have hlength := List.drop_eq_nil_iff.mp hrest
  exact ⟨by omega, hr⟩

/-- **Behind a change that was granted the next round starts.** -/
theorem lt_of_granted (h : Rounds own value postings answers requests result) {i : Nat}
    {p : Posting} {answer : HttpAnswer} (hi : 2 * i + 1 < requests.length)
    (hp : postings[i]? = some p) (ha : answers[2 * i + 1]? = some answer)
    (hf : p.failure? answer = none) (hmore : i + 1 < postings.length) :
    2 * (i + 1) < requests.length := by
  obtain ⟨crumbs, q, q', hd⟩ := h.drop_of_answered hi hp ha
  have hlater : postings.drop (i + 1) ≠ [] := by
    intro he
    have hlength := List.drop_eq_nil_iff.mp he
    omega
  have hrest := (hd.first_success hf).ne_nil hlater
  by_contra hlength
  apply hrest
  exact List.drop_eq_nil_iff.mpr (Nat.not_lt.mp hlength)

/-- **A call that succeeds** has asked for all changes, and each was granted. -/
theorem end_of_ok (h : Rounds own value postings answers requests result) {v : α}
    (hr : result = some (.ok v)) :
    requests.length = 2 * postings.length ∧
      ∀ i p, postings[i]? = some p → ∃ answer, answers[2 * i + 1]? = some answer ∧
        p.failure? answer = none := by
  -- The induction is on the rounds; only those that were all granted end well.
  induction h with
  | finished answers =>
    refine ⟨rfl, ?_⟩
    intro i p hp
    simp at hp
  | @granted p later _ _ crumbs answer answers requests _ hq hc hq' hf h ih =>
    obtain ⟨hlength, hall⟩ := ih hr
    constructor
    · simp only [List.length_cons]
      omega
    · intro i p' hp
      cases i with
      | zero =>
        cases hp
        exact ⟨answer, rfl, hf⟩
      | succ i => exact hall i p' hp
  | _ => cases hr

/-- **Rounds whose changes are all granted end well.** -/
theorem ok_of_grantsAll (h : Rounds own value postings answers requests result)
    (hall : GrantsAll postings answers) : result = some (.ok value) := by
  induction h with
  | finished answers => rfl
  | granted hq hc hq' hf h ih => exact ih fun i p hp => hall (i + 1) p hp
  -- All other rounds end with a change that is not granted, and it is the first one that is left.
  | waitsForCrumb hq =>
    obtain ⟨crumbs, answer, hcrumbs, -⟩ := hall 0 _ rfl
    cases hcrumbs
  | badCrumb hq hbad =>
    obtain ⟨crumbs, answer, hcrumbs, hc, -⟩ := hall 0 _ rfl
    cases hcrumbs
    exact absurd hc hbad
  | waitsForChange hq hc hq' =>
    obtain ⟨crumbs, answer, -, -, hanswer, -⟩ := hall 0 _ rfl
    cases hanswer
  | refused hq hc hq' hf =>
    obtain ⟨crumbs, answer, -, -, hanswer, hgranted⟩ := hall 0 _ rfl
    cases hanswer
    cases hgranted.symm.trans hf

/-- **Rounds that fail end with a bad crumb**, or with a change that is refused. -/
theorem end_of_error (h : Rounds own value postings answers requests result) {cause : ProtocolError}
    (hr : result = some (.error cause)) :
    (∃ i crumbs, requests.length = 2 * i + 1 ∧ answers[2 * i]? = some crumbs ∧
      ¬ HasNoBadCrumb crumbs ∧ cause = .http .badRequest) ∨
    ∃ i p answer, requests.length = 2 * i + 2 ∧ postings[i]? = some p ∧
      answers[2 * i + 1]? = some answer ∧ p.failure? answer = some cause := by
  -- The induction is on the rounds; each that was granted has two requests and two answers.
  induction h with
  | finished answers => cases hr
  | waitsForCrumb hq => cases hr
  | @badCrumb p later q crumbs answers hq hc =>
    cases hr
    exact .inl ⟨0, crumbs, rfl, rfl, hc, rfl⟩
  | waitsForChange hq hc hq' => cases hr
  | @refused p later q q' crumbs answer answers cause hq hc hq' hf =>
    cases hr
    exact .inr ⟨0, p, answer, rfl, rfl, rfl, hf⟩
  | granted hq hc hq' hf h ih =>
    rcases ih hr with ⟨i, crumbs, hlength, ha, hc, hcause⟩ | ⟨i, p, answer, hlength, hp, ha, hf⟩
    · refine .inl ⟨i + 1, crumbs, ?_, ha, hc, hcause⟩
      simp only [List.length_cons, hlength]
      omega
    · refine .inr ⟨i + 1, p, answer, ?_, hp, ha, hf⟩
      simp only [List.length_cons, hlength]
      omega

end Rounds

end Rounds

end NodeAgent
