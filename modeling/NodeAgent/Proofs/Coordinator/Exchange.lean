import NodeAgent.Coordinator.Client
import NodeAgent.Proofs.Dialogue
import NodeAgent.Proofs.Result

/-!
# Exchanges that succeed

An exchange succeeds when each of its parts does, in order.

## Main results

* `held_bind_ok`, `held_lift_ok`, `held_ofExcept_ok`, `held_send_ok`, `held_body_ok`: the parts of an
  exchange.
* `held_askElement_ok`: an element of an answer.
* `forall_requests_bind`: the requests of an exchange are those of its parts.
-/

namespace NodeAgent.Exchange

open Dialogue Xml

variable {State α β : Type} {R : State → Request → Except HttpError Response → State → Prop}
  {before after : State}

/-- What an exchange goes on with after a part of it. -/
def afterPart (f : α → Exchange β) : Except ProtocolError α → HttpDialogue (Except ProtocolError β)
  | .ok a => (f a).run
  | .error cause => .done (.error cause)

theorem run_bind (e : Exchange α) (f : α → Exchange β) :
    (e >>= f).run = Dialogue.bind e.run (afterPart f) := by
  change Dialogue.bind e.run (ExceptT.bindCont f) = _
  congr
  funext result
  cases result <;> rfl

/-- **An exchange that goes on with another one** succeeds when both do. -/
theorem held_bind_ok {e : Exchange α} {f : α → Exchange β} {b : β} :
    Held R before (e >>= f).run (.ok b) after ↔
      ∃ a between, Held R before e.run (.ok a) between ∧ Held R between (f a).run (.ok b) after := by
  rw [run_bind, held_bind]
  constructor
  · rintro ⟨result, between, h, hf⟩
    cases result with
    | ok a => exact ⟨a, between, h, hf⟩
    | error cause => exact nomatch (held_done.mp hf).1
  · rintro ⟨a, between, h, hf⟩
    exact ⟨.ok a, between, h, hf⟩

theorem held_pure_ok {a a' : α} :
    Held R before (pure a : Exchange α).run (.ok a') after ↔ a' = a ∧ after = before := by
  change Held R before (.done (.ok a)) (.ok a' : Except ProtocolError α) after ↔ _
  rw [held_done, Except.ok.injEq]

theorem not_held_fail_ok {cause : ProtocolError} {a : α} :
    ¬ Held R before (fail cause : Exchange α).run (.ok a) after :=
  fun h => nomatch (held_done.mp h).1

theorem held_ofExcept_ok {x : Except ProtocolError α} {a : α} :
    Held R before (ofExcept x).run (.ok a) after ↔ x = .ok a ∧ after = before := by
  cases x with
  | ok a' =>
    rw [ofExcept, held_pure_ok, Except.ok.injEq]
    exact and_congr_left' eq_comm
  | error cause =>
    constructor
    · exact fun h => absurd h not_held_fail_ok
    · exact fun h => nomatch h.1

theorem held_lift_ok {d : HttpDialogue α} {a : α} :
    Held R before (liftM d : Exchange α).run (.ok a) after ↔ Held R before d a after := by
  change Held R before (Dialogue.bind d fun a => .done (.ok a)) (.ok a : Except ProtocolError α)
    after ↔ _
  rw [held_bind]
  constructor
  · rintro ⟨a', between, h, hf⟩
    obtain ⟨he, rfl⟩ := held_done.mp hf
    cases he
    exact h
  · exact fun h => ⟨a, after, h, .done _ _⟩

theorem held_body_ok {response : Response} {text : String} :
    Held R before (body response).run (.ok text) after ↔
      response.text = .ok text ∧ after = before := by
  rw [body, held_ofExcept_ok, mapError_eq_ok]

/-- **A request that is answered.** -/
theorem held_send_ok {request : Request} {response : Response} :
    Held R before (send request).run (.ok response) after ↔
      R before request (.ok response) after := by
  change Held R before (.ask request fun answer => .done (answer.mapError ProtocolError.http))
    (.ok response) after ↔ _
  rw [held_ask]
  constructor
  · rintro ⟨answer, between, h, hf⟩
    obtain ⟨he, rfl⟩ := held_done.mp hf
    cases answer with
    | ok response' => cases he; exact h
    | error cause => cases he
  · exact fun h => ⟨.ok response, after, h, .done _ _⟩

/-- **An element that is asked for** is that of a document in a good answer. -/
theorem held_askElement_ok {request : Request} {operation : Operation} {element text : String} :
    Held R before (HttpClient.askElement request operation element).run (.ok text) after ↔
      ∃ response body, R before request (.ok response) after ∧ response.isOk = true ∧
        response.text = .ok body ∧ elementText? element body = .ok (some text) := by
  constructor
  · intro h
    obtain ⟨response, between, hs, hbody⟩ := held_bind_ok.mp h
    obtain ⟨body, between', hx, hend⟩ := held_bind_ok.mp hbody
    obtain ⟨hb, rfl⟩ := held_body_ok.mp hx
    cases hr : response.isOk with
    | false =>
      rw [hr] at hend
      exact absurd hend not_held_fail_ok
    | true =>
      rw [hr] at hend
      cases he : elementText? element body with
      | error cause =>
        simp only [he] at hend
        exact absurd hend not_held_fail_ok
      | ok text? =>
        cases text? with
        | none =>
          simp only [he] at hend
          exact absurd hend not_held_fail_ok
        | some text' =>
          simp only [he] at hend
          obtain ⟨rfl, rfl⟩ := held_pure_ok.mp hend
          exact ⟨response, body, held_send_ok.mp hs, hr, hb, he⟩
  · rintro ⟨response, body, hs, hr, hb, he⟩
    refine held_bind_ok.mpr ⟨response, after, held_send_ok.mpr hs, ?_⟩
    refine held_bind_ok.mpr ⟨body, after, held_body_ok.mpr ⟨hb, rfl⟩, ?_⟩
    simp only [hr, he]
    exact held_pure_ok.mpr ⟨rfl, rfl⟩

/-! ## Requests -/

variable {P : Request → Prop} {answers : List (Except HttpError Response)}

/-- **What is true of the requests of both parts** of an exchange is true of all its requests. -/
theorem forall_requests_bind {e : Exchange α} {f : α → Exchange β}
    (he : ∀ q ∈ e.run.questions answers, P q)
    (hf : ∀ a later, ∀ q ∈ (f a).run.questions later, P q) :
    ∀ q ∈ (e >>= f).run.questions answers, P q := by
  rw [run_bind]
  refine forall_questions_bind he fun result later q hq => ?_
  cases result with
  | ok a => exact hf a later q hq
  | error cause =>
    rw [afterPart, questions_done] at hq
    cases hq

theorem forall_requests_pure (a : α) : ∀ q ∈ (pure a : Exchange α).run.questions answers, P q := by
  intro q hq
  rw [show (pure a : Exchange α).run = .done (.ok a) from rfl, questions_done] at hq
  cases hq

theorem forall_requests_fail (cause : ProtocolError) :
    ∀ q ∈ (fail cause : Exchange α).run.questions answers, P q := by
  intro q hq
  rw [show (fail cause : Exchange α).run = .done (.error cause) from rfl, questions_done] at hq
  cases hq

/-- A result that is there already is not asked for. -/
theorem forall_requests_ofExcept_bind {x : Except ProtocolError α} {f : α → Exchange β}
    (h : ∀ a, x = .ok a → ∀ q ∈ (f a).run.questions answers, P q) :
    ∀ q ∈ (ofExcept x >>= f).run.questions answers, P q := by
  cases x with
  | ok a => exact h a rfl
  | error cause => exact @forall_requests_fail β P answers cause

theorem forall_requests_lift {d : HttpDialogue α} (h : ∀ q ∈ d.questions answers, P q) :
    ∀ q ∈ (liftM d : Exchange α).run.questions answers, P q := by
  refine forall_questions_bind h fun a later q hq => ?_
  cases later <;> cases hq

theorem forall_requests_send {request : Request} (h : P request) :
    ∀ q ∈ (send request).run.questions answers, P q := by
  intro q hq
  change q ∈ (Dialogue.ask request fun answer =>
    .done (answer.mapError ProtocolError.http)).questions answers at hq
  cases answers with
  | nil =>
    obtain rfl := List.mem_singleton.mp hq
    exact h
  | cons answer answers =>
    rw [questions_ask_cons, questions_done] at hq
    obtain rfl := List.mem_singleton.mp hq
    exact h

end NodeAgent.Exchange
