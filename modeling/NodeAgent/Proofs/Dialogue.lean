import NodeAgent.Dialogue

/-!
# Holding dialogues

A dialogue is held with a partner who keeps a state and may answer a question in more than one way.
What comes of a dialogue that is put together comes of its parts, one after the other.

## Main definitions

* `Dialogue.Held`: what may come of a dialogue with such a partner.
* `Dialogue.questions`: the questions that are asked along a list of answers.

## Main results

* `bind_done`, `bind_bind`: dialogues follow one another as in any monad.
* `held_bind`, `held_holdWith`: dialogues that are put together.
* `held_run`: a dialogue that is held by means of a program.
* `questions_bind`, `forall_questions_bind`, `pairwise_questions_bind`: their questions come one after
  the other.
-/

namespace NodeAgent.Dialogue

variable {Question Answer α β State : Type}

/-! ## Dialogues one after the other -/

theorem bind_done (d : Dialogue Question Answer α) : d.bind done = d := by
  induction d with
  | done a => rfl
  | ask question next ih => exact congrArg (ask question) (funext ih)

theorem bind_bind {γ : Type} (d : Dialogue Question Answer α) (f : α → Dialogue Question Answer β)
    (g : β → Dialogue Question Answer γ) : (d.bind f).bind g = d.bind fun a => (f a).bind g := by
  induction d with
  | done a => rfl
  | ask question next ih => exact congrArg (ask question) (funext ih)

instance : LawfulMonad (Dialogue Question Answer) :=
  .mk' (Dialogue Question Answer) bind_done (fun _ _ => rfl) bind_bind

/-! ## Partners with a state -/

/-- **What may come of a dialogue** with a partner who keeps a state.  `R before question answer after`
says that the partner may give an answer to a question, and what state it is in then. -/
inductive Held (R : State → Question → Answer → State → Prop) :
    State → Dialogue Question Answer α → α → State → Prop
  | done (state : State) (result : α) : Held R state (.done result) result state
  | ask {before between after : State} {question : Question} {answer : Answer}
      {next : Answer → Dialogue Question Answer α} {result : α}
      (h : R before question answer between) (hn : Held R between (next answer) result after) :
      Held R before (.ask question next) result after

variable {R : State → Question → Answer → State → Prop} {before after : State}

theorem held_done {result result' : α} :
    Held R before (.done result) result' after ↔ result' = result ∧ after = before := by
  constructor
  · rintro ⟨⟩
    exact ⟨rfl, rfl⟩
  · rintro ⟨rfl, rfl⟩
    exact .done _ _

theorem held_ask {question : Question} {next : Answer → Dialogue Question Answer α} {result : α} :
    Held R before (.ask question next) result after ↔
      ∃ answer between, R before question answer between ∧
        Held R between (next answer) result after := by
  constructor
  · rintro ⟨⟩
    exact ⟨_, _, ‹_›, ‹_›⟩
  · rintro ⟨answer, between, h, hn⟩
    exact .ask h hn

theorem held_question {question : Question} {answer : Answer} :
    Held R before (Dialogue.question question) answer after ↔ R before question answer after := by
  rw [Dialogue.question, held_ask]
  constructor
  · rintro ⟨a, s, h, hn⟩
    obtain ⟨rfl, rfl⟩ := held_done.mp hn
    exact h
  · exact fun h => ⟨answer, after, h, .done _ _⟩

/-- **A dialogue that goes on with another one.** -/
theorem held_bind {d : Dialogue Question Answer α} {f : α → Dialogue Question Answer β} {result : β} :
    Held R before (d.bind f) result after ↔
      ∃ a between, Held R before d a between ∧ Held R between (f a) result after := by
  induction d generalizing before with
  | done a =>
    constructor
    · exact fun h => ⟨a, before, .done _ _, h⟩
    · rintro ⟨a', between, h, hf⟩
      obtain ⟨rfl, rfl⟩ := held_done.mp h
      exact hf
  | ask question next ih =>
    change Held R before (.ask question fun answer => (next answer).bind f) result after ↔ _
    simp only [held_ask, ih]
    constructor
    · rintro ⟨answer, first, h, a, second, hn, hf⟩
      exact ⟨a, second, ⟨answer, first, h, hn⟩, hf⟩
    · rintro ⟨a, second, ⟨answer, first, h, hn⟩, hf⟩
      exact ⟨answer, first, h, a, second, hn, hf⟩

/-- **A dialogue that is held by means of other dialogues.** -/
theorem held_holdWith {Question' Answer' : Type} {d : Dialogue Question' Answer' α}
    {f : Question' → Dialogue Question Answer Answer'} {result : α} :
    Held R before (d.holdWith f) result after ↔
      Held (fun s q a s' => Held R s (f q) a s') before d result after := by
  induction d generalizing before with
  | done a => rw [held_done]; exact held_done
  | ask question next ih =>
    change Held R before ((f question).bind fun answer => (next answer).holdWith f) result after ↔ _
    rw [held_bind, held_ask]
    simp only [ih]

/-- What a partner may do, a partner who may do more may do. -/
theorem Held.mono {R' : State → Question → Answer → State → Prop}
    (hr : ∀ s q a s', R s q a s' → R' s q a s') {d : Dialogue Question Answer α} {result : α}
    (h : Held R before d result after) : Held R' before d result after := by
  induction h with
  | done state result => exact .done state result
  | ask h _ ih => exact .ask (hr _ _ _ _ h) ih

/-- A dialogue that is held by means of a program. -/
theorem held_run {f : Question → StateM State Answer}
    (hf : ∀ s q, R s q ((f q).run s).1 ((f q).run s).2) (d : Dialogue Question Answer α) (s : State) :
    Held R s d ((d.holdWith f).run s).1 ((d.holdWith f).run s).2 := by
  induction d generalizing s with
  | done result => exact .done _ _
  | ask question next ih => exact .ask (hf s question) (ih _ _)

/-! ## Questions -/

/-- **The questions that are asked** along a list of answers. -/
def questions (d : Dialogue Question Answer α) (answers : List Answer) : List Question :=
  (d.transcript answers).1

@[simp] theorem questions_done (result : α) (answers : List Answer) :
    (done result : Dialogue Question Answer α).questions answers = [] := by
  cases answers <;> rfl

@[simp] theorem questions_ask_cons (question : Question)
    (next : Answer → Dialogue Question Answer α) (answer : Answer) (answers : List Answer) :
    (ask question next).questions (answer :: answers) =
      question :: (next answer).questions answers := rfl

/-- **The questions of a dialogue that goes on with another one** are those of the first, and behind
them those of the second if it comes to that. -/
theorem questions_bind (d : Dialogue Question Answer α) (f : α → Dialogue Question Answer β)
    (answers : List Answer) :
    (d.bind f).questions answers = d.questions answers ∨
      ∃ a later, (d.bind f).questions answers = d.questions answers ++ (f a).questions later := by
  induction d generalizing answers with
  | done a => exact .inr ⟨a, answers, by rw [questions_done]; rfl⟩
  | ask question next ih =>
    cases answers with
    | nil => exact .inl rfl
    | cons answer answers =>
      -- Both dialogues ask the same question first, and then the hypothesis is about the next one.
      change question :: ((next answer).bind f).questions answers = _ ∨
        ∃ a later, question :: ((next answer).bind f).questions answers = _
      rcases ih answer answers with h | ⟨a, later, h⟩
      · exact .inl (by rw [h]; rfl)
      · exact .inr ⟨a, later, by rw [h]; rfl⟩

/-- What is true of the questions of both parts is true of all questions. -/
theorem forall_questions_bind {P : Question → Prop} {d : Dialogue Question Answer α}
    {f : α → Dialogue Question Answer β} {answers : List Answer}
    (hd : ∀ q ∈ d.questions answers, P q) (hf : ∀ a later, ∀ q ∈ (f a).questions later, P q) :
    ∀ q ∈ (d.bind f).questions answers, P q := by
  intro q hq
  rcases questions_bind d f answers with h | ⟨a, later, h⟩ <;> rw [h] at hq
  · exact hd q hq
  · rcases List.mem_append.mp hq with hq | hq
    · exact hd q hq
    · exact hf a later q hq

/-- Questions that come in a certain order in both parts, and from one part to the other, do so
altogether. -/
theorem pairwise_questions_bind {r : Question → Question → Prop} {d : Dialogue Question Answer α}
    {f : α → Dialogue Question Answer β} {answers : List Answer}
    (hd : (d.questions answers).Pairwise r) (hf : ∀ a later, ((f a).questions later).Pairwise r)
    (h : ∀ q ∈ d.questions answers, ∀ a later, ∀ q' ∈ (f a).questions later, r q q') :
    ((d.bind f).questions answers).Pairwise r := by
  rcases questions_bind d f answers with he | ⟨a, later, he⟩ <;> rw [he]
  · exact hd
  · exact List.pairwise_append.mpr ⟨hd, hf a later, fun q hq q' hq' => h q hq a later q' hq'⟩

end NodeAgent.Dialogue
