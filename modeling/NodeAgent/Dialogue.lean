/-!
# Dialogues

A dialogue asks questions one after the other, and each question may depend on the answers so far.  At
the end it has a result.  A dialogue says nothing about who answers: it can be held with a scripted
partner, with a partner who keeps a state, or by means of other dialogues.

## Main definitions

* `Dialogue`: questions, answers and a result.
* `Dialogue.holdWith`: the result when every question is answered by an action.
* `Dialogue.transcript`: the questions that are asked along a list of answers.
-/

namespace NodeAgent

/-- **A dialogue.** -/
inductive Dialogue (Question Answer α : Type) where
  /-- Nothing more is asked. -/
  | done (result : α)
  /-- A question, and how the dialogue goes on with the answer. -/
  | ask (question : Question) (next : Answer → Dialogue Question Answer α)

namespace Dialogue

variable {Question Answer α β : Type}

/-- Goes on with another dialogue. -/
def bind (d : Dialogue Question Answer α) (f : α → Dialogue Question Answer β) :
    Dialogue Question Answer β :=
  match d with
  | done result => f result
  | ask question next => ask question fun answer => (next answer).bind f

instance : Monad (Dialogue Question Answer) where
  pure := done
  bind := bind

/-- The dialogue of one question. -/
def question (q : Question) : Dialogue Question Answer Answer :=
  ask q done

/-- **Holds a dialogue**, with an action that answers the questions. -/
def holdWith {m : Type → Type} [Monad m] (answer : Question → m Answer) :
    Dialogue Question Answer α → m α
  | done result => pure result
  | ask question next => do (next (← answer question)).holdWith answer

/-- **The questions that are asked along a list of answers**, and the result if the answers suffice. -/
def transcript : Dialogue Question Answer α → List Answer → List Question × Option α
  | done result, _ => ([], some result)
  | ask question _, [] => ([question], none)
  | ask question next, answer :: answers =>
    let (questions, result) := (next answer).transcript answers
    (question :: questions, result)

end Dialogue

end NodeAgent
