import Mathlib.Data.List.Induction
import NodeAgent.Proofs.Supervisor.Step

/-!
# The course of a run

A run is a sequence of attempts.  What the attempts do does not matter here, only how each of them
ends: the results decide when the run is over and how long it waits before each further attempt.

## Main definitions

* `Supervisor.stops?`: the end of a run that an attempt brings about, in terms of its number.
* `Supervisor.course`: a run along a sequence of results.
* `Supervisor.results`: the results of the attempts of a run along events.

## Main results

* `course_of_going_on`, `course_of_stop`: the calls between attempts, and the end of the run.
* `run_follows_course`: the machine makes these calls and ends this way.
* `results_determine_run`: all of it at once.
-/

namespace NodeAgent

/-- The failure that no further attempt can mend. -/
def AttemptResult.fatal? : AttemptResult → Option AgentError
  | .failed cause => if cause.isRetryable then none else some cause
  | _ => none

namespace Supervisor

variable {source : Words}

/-! ## The law -/

/-- The attempts that are counted after `n` of them.  The count stops at the greatest number of 32
bits. -/
def counted (n : Nat) : Nat :=
  min n (UInt32.size - 1)

/-- The seconds of the wait after the `k`-th attempt. -/
def waitAfter (s : SupervisorSettings) (k : Nat) : UInt64 :=
  waitFor s.backoff.policy (counted (k - 1)).toUInt32 s.backoff.interval s.backoff.maxInterval

/-- Whether the budget is used up after `k` attempts. -/
def isSpent (s : SupervisorSettings) (k : Nat) : Bool :=
  s.retryBudget.any fun budget => budget.toNat ≤ counted k

/-- **The end of the run that the `k`-th attempt brings about** by its result, if it brings one about. -/
def stops? (s : SupervisorSettings) (k : Nat) (result : AttemptResult) :
    Option (Except AgentError Ending) :=
  match result.fatal? with
  | some cause => some (.error cause)
  | none =>
    if result = .restarted then some (.ok .restarted)
    else if result = .closed ∧ s.noRetryAfterConnected = true then some (.ok .disconnected)
    else if isSpent s k then some (.ok .retriesExhausted)
    else none

/-- None of the first `n` attempts ends the run. -/
def GoesOn (s : SupervisorSettings) (results : Nat → AttemptResult) (n : Nat) : Prop :=
  ∀ k, 1 ≤ k → k ≤ n → stops? s k (results k) = none

/-- The calls that start the first `n + 1` attempts, with the waits between them. -/
def turns (s : SupervisorSettings) (n : Nat) : List SupervisorCall :=
  .discover :: (List.range n).flatMap fun i => [.sleep (waitAfter s (i + 1)), .discover]

/-! ## The loop -/

/-- **An attempt that ends with a result**, from its end on: what follows, up to the start of the next
attempt. -/
def attempt (s : SupervisorSettings) (state : Supervisor source) (result : AttemptResult) :
    Step source :=
  let ended := conclude s state.progress result
  let next := step s ended.1 .slept
  (next.1, ended.2 ++ next.2)

/-- **A run along a sequence of results**, after `n` attempts or when it is over.  The `k`-th attempt
ends with `results k`. -/
def course (s : SupervisorSettings) (words : source.State) (results : Nat → AttemptResult) :
    Nat → Step source
  | 0 => start words
  | n + 1 =>
    let before := course s words results n
    match before.1.phase with
    | .finished _ => before
    | _ =>
      let next := attempt s before.1 (results (n + 1))
      (next.1, before.2 ++ next.2)

/-! ## What one attempt decides -/

section Decision

variable {s : SupervisorSettings} {p : Progress source} {n : Nat}

theorem counted_countUp {attempts : UInt32} (h : attempts.toNat = counted n) :
    (RetryState.countUp attempts).toNat = counted (n + 1) := by
  have hlt := attempts.toNat_lt
  -- The counter stops at its greatest value, as the law does.
  unfold RetryState.countUp counted at *
  simp only [UInt32.size] at *
  split
  · omega
  · rw [UInt32.toNat_add]
    simp only [UInt32.toNat_one]
    omega

/-- Without randomised waits a failure spends no random words. -/
theorem fail_eq (hj : s.backoff.jitter = false) :
    p.fail s.backoff = ⟨p.retry.nextWait s.backoff, p.words⟩ := by
  simp [Progress.fail, RetryState.nextWaitJittered, RetryState.drawWait, RetryState.nextWait, hj]

theorem fail_attempts (hj : s.backoff.jitter = false) (hp : p.retry.attempts.toNat = counted n) :
    (p.fail s.backoff).retry.attempts.toNat = counted (n + 1) := by
  rw [fail_eq hj]
  exact counted_countUp hp

theorem fail_lastWait (hj : s.backoff.jitter = false) (hp : p.retry.attempts.toNat = counted n) :
    (p.fail s.backoff).retry.lastWait = waitAfter s (n + 1) := by
  have ha : (counted n).toUInt32 = p.retry.attempts := by
    rw [← hp]
    exact UInt32.ofNat_toNat
  rw [fail_eq hj, waitAfter, Nat.add_sub_cancel, ha]
  rfl

/-- After a failure the run is over if the budget is used up; else there is a wait. -/
theorem retryAfter_eq (hj : s.backoff.jitter = false) (hp : p.retry.attempts.toNat = counted n) :
    (p.retryAfter s).1 =
      if isSpent s (n + 1) then .finish (.ok .retriesExhausted)
      else .again (waitAfter s (n + 1))
        (s.retryBudget.map (· - (p.fail s.backoff).retry.attempts)) := by
  have ha := fail_attempts hj hp
  have hw := fail_lastWait hj hp
  cases hb : s.retryBudget with
  | none => simp [Progress.retryAfter, Progress.tryAgain, isSpent, hb, hw]
  | some budget =>
    -- The budget is compared with the counter as numbers of 32 bits.
    have hle : budget ≤ (p.fail s.backoff).retry.attempts ↔ budget.toNat ≤ counted (n + 1) := by
      rw [UInt32.le_iff_toNat_le, ha]
    by_cases h : budget.toNat ≤ counted (n + 1) <;>
      simp [Progress.retryAfter, Progress.tryAgain, isSpent, hb, hw, hle, h]

/-- **What follows the next attempt** is the end that the law prescribes, or a wait. -/
theorem decide_eq (hj : s.backoff.jitter = false) (hp : p.retry.attempts.toNat = counted n)
    (result : AttemptResult) :
    (p.decide s result).1 =
      match stops? s (n + 1) result with
      | some outcome => .finish outcome
      | none => .again (waitAfter s (n + 1))
          (s.retryBudget.map (· - (p.fail s.backoff).retry.attempts)) := by
  -- The results are told apart as the law tells them apart; only the last test is about the budget.
  have hagain := retryAfter_eq hj hp
  cases result with
  | restarted => simp [Progress.decide, stops?, AttemptResult.fatal?]
  | closed =>
    by_cases hc : s.noRetryAfterConnected = true
    · simp [Progress.decide, stops?, AttemptResult.fatal?, hc]
    · cases hs : isSpent s (n + 1) <;>
        simp [Progress.decide, stops?, AttemptResult.fatal?, hc, hagain, hs]
  | restartFailed cause =>
    cases hs : isSpent s (n + 1) <;>
      simp [Progress.decide, stops?, AttemptResult.fatal?, hagain, hs]
  | failed cause =>
    by_cases hr : cause.isRetryable = true
    · cases hs : isSpent s (n + 1) <;>
        simp [Progress.decide, stops?, AttemptResult.fatal?, hr, hagain, hs]
    · simp [Progress.decide, stops?, AttemptResult.fatal?, hr]

/-- An attempt that does not end the run was a failure that is counted. -/
theorem decide_of_again {result : AttemptResult} {wait : UInt64} {left : Option UInt32}
    (h : (p.decide s result).1 = .again wait left) : p.decide s result = p.retryAfter s := by
  cases result with
  | restarted => cases h
  | closed =>
    by_cases hc : s.noRetryAfterConnected = true
    · simp [Progress.decide, hc] at h
    · simp [Progress.decide, hc]
  | restartFailed cause => rfl
  | failed cause =>
    by_cases hr : cause.isRetryable = true
    · simp [Progress.decide, hr]
    · simp [Progress.decide, hr] at h

/-- The progress after an attempt that does not end the run. -/
theorem decide_snd_of_again {result : AttemptResult} {wait : UInt64} {left : Option UInt32}
    (h : (p.decide s result).1 = .again wait left) : (p.decide s result).2 = p.fail s.backoff := by
  rw [decide_of_again h]
  rfl

end Decision

/-! ## The whole run -/

section Course

variable {s : SupervisorSettings} {words : source.State} {results : Nat → AttemptResult}

theorem conclude_of_stop (hj : s.backoff.jitter = false) {p : Progress source} {n : Nat}
    (hp : p.retry.attempts.toNat = counted n) {result : AttemptResult}
    {outcome : Except AgentError Ending} (h : stops? s (n + 1) result = some outcome) :
    ∃ q, conclude s p result = (⟨q, .finished outcome⟩, []) := by
  have hd := decide_eq hj hp result
  rw [h] at hd
  unfold conclude
  split
  · next q he => rw [he] at hd; cases hd; exact ⟨q, rfl⟩
  · next he => rw [he] at hd; cases hd

theorem conclude_of_again (hj : s.backoff.jitter = false) {p : Progress source} {n : Nat}
    (hp : p.retry.attempts.toNat = counted n) {result : AttemptResult}
    (h : stops? s (n + 1) result = none) :
    conclude s p result = (⟨p.fail s.backoff, .waiting⟩, [.sleep (waitAfter s (n + 1))]) := by
  have hd := decide_eq hj hp result
  rw [h] at hd
  have hq := decide_snd_of_again hd
  unfold conclude
  split
  · next he => rw [he] at hd; cases hd
  · next he => rw [he] at hd hq; cases hd; cases hq; rfl

theorem course_of_finished {n : Nat} {outcome : Except AgentError Ending}
    (h : (course s words results n).1.phase = .finished outcome) (m : Nat) :
    course s words results (n + m) = course s words results n := by
  induction m with
  | zero => rfl
  | succ m ih => rw [← Nat.add_assoc, course, ih]; simp only [h]

theorem turns_succ (s : SupervisorSettings) (n : Nat) :
    turns s (n + 1) = turns s n ++ [.sleep (waitAfter s (n + 1)), .discover] := by
  simp [turns, List.range_succ]

/-- **A run that goes on** has counted its attempts and is making the next one. -/
theorem course_of_going_on (words : source.State) (hj : s.backoff.jitter = false) (n : Nat)
    (h : GoesOn s results n) :
    ∃ p : Progress source, p.retry.attempts.toNat = counted n ∧
      course s words results n = (⟨p, .discovering⟩, turns s n) := by
  induction n with
  | zero => exact ⟨⟨{}, words⟩, by simp [counted], rfl⟩
  | succ n ih =>
    obtain ⟨p, hp, hc⟩ := ih fun k h₁ hk => h k h₁ (Nat.le_succ_of_le hk)
    have hstop := h (n + 1) (Nat.le_add_left 1 n) (Nat.le_refl _)
    refine ⟨p.fail s.backoff, fail_attempts hj hp, ?_⟩
    rw [course, hc]
    simp only [attempt, conclude_of_again hj hp hstop, turns_succ]
    rfl

/-- **A run ends with the first attempt that ends it**, and makes no call after that. -/
theorem course_of_stop (words : source.State) (hj : s.backoff.jitter = false) {n : Nat}
    (h : GoesOn s results n) {outcome : Except AgentError Ending}
    (hs : stops? s (n + 1) (results (n + 1)) = some outcome) {m : Nat} (hm : n + 1 ≤ m) :
    ∃ p : Progress source,
      course s words results m = (⟨p, .finished outcome⟩, turns s n) := by
  obtain ⟨p, hp, hc⟩ := course_of_going_on words hj n h
  obtain ⟨q, hq⟩ := conclude_of_stop hj hp hs
  have hlast : course s words results (n + 1) = (⟨q, .finished outcome⟩, turns s n) := by
    rw [course, hc]
    simp only [attempt, hq]
    simp [step, stay]
  obtain ⟨d, rfl⟩ := Nat.exists_eq_add_of_le hm
  refine ⟨q, ?_⟩
  rw [course_of_finished (by rw [hlast]) d, hlast]

/-- Of the attempts that end a run there is a first one. -/
theorem exists_first_stop {n : Nat} (h : ¬ GoesOn s results n) :
    ∃ m outcome, m + 1 ≤ n ∧ GoesOn s results m ∧
      stops? s (m + 1) (results (m + 1)) = some outcome := by
  induction n with
  | zero => exact absurd (fun k h₁ hk => by omega) h
  | succ n ih =>
    by_cases hn : GoesOn s results n
    · cases hs : stops? s (n + 1) (results (n + 1)) with
      | some outcome => exact ⟨n, outcome, Nat.le_refl _, hn, hs⟩
      | none =>
        refine absurd (fun k h₁ hk => ?_) h
        rcases Nat.lt_or_eq_of_le hk with hlt | rfl
        · exact hn k h₁ (Nat.le_of_lt_succ hlt)
        · exact hs
    · obtain ⟨m, outcome, hm, hg, hs⟩ := ih hn
      exact ⟨m, outcome, Nat.le_succ_of_le hm, hg, hs⟩

theorem stops?_ne_exhausted (h : s.retryBudget = none) (k : Nat) (result : AttemptResult) :
    stops? s k result ≠ some (.ok .retriesExhausted) := by
  unfold stops? isSpent
  rw [h]
  split
  · simp
  · split_ifs <;> simp_all

theorem course_ne_exhausted (hj : s.backoff.jitter = false) (h : s.retryBudget = none) (n : Nat) :
    (course s words results n).1.phase ≠ .finished (.ok .retriesExhausted) := by
  intro hf
  by_cases hg : GoesOn s results n
  · obtain ⟨p, -, hc⟩ := course_of_going_on words hj n hg
    rw [hc] at hf
    cases hf
  · -- The run has stopped by now, and the first attempt to stop it did not do so for want of a budget.
    obtain ⟨m, outcome, hm, hm', hs⟩ := exists_first_stop hg
    obtain ⟨p, hc⟩ := course_of_stop words hj hm' hs hm
    rw [hc] at hf
    cases hf
    exact stops?_ne_exhausted h _ _ hs

/-- **The budget that is left** after an attempt that does not end the run: what was not counted yet,
which is not nothing. -/
theorem budget_left (hj : s.backoff.jitter = false) {n : Nat} (h : GoesOn s results (n + 1)) :
    ∃ left, ((course s words results n).1.progress.decide s (results (n + 1))).1 =
        .again (waitAfter s (n + 1)) left ∧
      left.map UInt32.toNat = s.retryBudget.map (fun b => b.toNat - counted (n + 1)) ∧
      ∀ b ∈ s.retryBudget, counted (n + 1) < b.toNat := by
  obtain ⟨p, hp, hc⟩ :=
    course_of_going_on words hj n fun k h₁ hk => h k h₁ (Nat.le_succ_of_le hk)
  have hstop := h (n + 1) (Nat.le_add_left 1 n) (Nat.le_refl _)
  -- If the budget were used up, the law would end the run here.
  have hleft : ∀ b ∈ s.retryBudget, counted (n + 1) < b.toNat := by
    intro b hb
    by_contra hle
    have hspent : isSpent s (n + 1) = true := by
      rw [Option.mem_def] at hb
      simpa [isSpent, hb] using hle
    unfold stops? at hstop
    split at hstop
    · cases hstop
    · split_ifs at hstop
  refine ⟨s.retryBudget.map (· - (p.fail s.backoff).retry.attempts), ?_, ?_, hleft⟩
  · rw [hc, decide_eq hj hp, hstop]
  · cases hb : s.retryBudget with
    | none => rfl
    | some b =>
      have hlt := hleft b (by rw [hb]; rfl)
      have ha := fail_attempts hj hp
      simp only [Option.map_some, Option.some.injEq]
      rw [UInt32.toNat_sub_of_le _ _ (by rw [UInt32.le_iff_toNat_le, ha]; exact Nat.le_of_lt hlt), ha]

end Course

/-! ## The machine follows the law -/

/-- **The results of the attempts** that end along events. -/
def results (s : SupervisorSettings) : Supervisor source → List SupervisorEvent → List AttemptResult
  | _, [] => []
  | state, event :: events =>
    (result? state.phase event).toList ++ results s (step s state event).1 events

/-- Whether a call starts an attempt or a wait between attempts. -/
def isTurn : SupervisorCall → Bool
  | .discover => true
  | .sleep _ => true
  | _ => false

/-- The call that ends a wait. -/
def owed : Phase → List SupervisorCall
  | .waiting => [.discover]
  | _ => []

/-- How the run ended, if it is over. -/
def outcome? : Phase → Option (Except AgentError Ending)
  | .finished outcome => some outcome
  | _ => none

theorem results_concat (s : SupervisorSettings) (state : Supervisor source)
    (events : List SupervisorEvent) (event : SupervisorEvent) :
    results s state (events ++ [event]) =
      results s state events ++ (result? (run s state events).1.phase event).toList := by
  induction events generalizing state with
  | nil => simp [results]
  | cons e events ih => simp [results, ih, run_cons]

theorem filter_labelCalls (link : Link) (call? : Option LabelCall) :
    (labelCalls link call?).filter isTurn = [] := by
  cases call? <;> rfl

/-- A move ends a wait or leaves the turns as they are. -/
theorem Move.turns {s : SupervisorSettings} {phase next : Phase} {event : SupervisorEvent}
    {calls : List SupervisorCall} (h : Move s phase event next calls) :
    outcome? next = outcome? phase ∧ calls.filter isTurn ++ owed next = owed phase := by
  cases h with
  | read candidate _ _ h _ => rcases h with ⟨rfl, -, -⟩ | ⟨rfl, -⟩ <;> exact ⟨rfl, rfl⟩
  | registerAtOnce candidate _ _ h _ => rcases h with ⟨rfl, -, -⟩ | ⟨rfl, -⟩ <;> exact ⟨rfl, rfl⟩
  | watch link _ _ _ call? _ => exact ⟨rfl, by rw [filter_labelCalls]; rfl⟩
  | finishWatch link _ _ _ _ call? _ _ => exact ⟨rfl, by rw [filter_labelCalls]; rfl⟩
  | _ => exact ⟨rfl, rfl⟩

/-- The end of an attempt, seen from the machine and from the loop. -/
theorem attempt_turns (s : SupervisorSettings) (state : Supervisor source)
    (result : AttemptResult) :
    (attempt s state result).1.progress = (conclude s state.progress result).1.progress ∧
      outcome? (attempt s state result).1.phase =
        outcome? (conclude s state.progress result).1.phase ∧
      (conclude s state.progress result).2.filter isTurn ++
        owed (conclude s state.progress result).1.phase = (attempt s state result).2 := by
  unfold attempt
  rcases conclude_cases s state.progress result with ⟨q, outcome, h⟩ | ⟨q, wait, h⟩ <;> rw [h]
  · exact ⟨rfl, rfl, rfl⟩
  · exact ⟨rfl, rfl, rfl⟩

theorem not_waiting_of_result {phase : Phase} {event : SupervisorEvent} {result : AttemptResult}
    (h : result? phase event = some result) : owed phase = [] ∧ outcome? phase = none := by
  cases phase with
  | waiting => cases event <;> cases h
  | finished outcome => cases event <;> cases h
  | _ => exact ⟨rfl, rfl⟩

theorem course_succ_of_not_finished (s : SupervisorSettings) (words : source.State)
    (sequence : Nat → AttemptResult) (n : Nat)
    (h : outcome? (course s words sequence n).1.phase = none) :
    course s words sequence (n + 1) =
      ((attempt s (course s words sequence n).1 (sequence (n + 1))).1,
        (course s words sequence n).2 ++
          (attempt s (course s words sequence n).1 (sequence (n + 1))).2) := by
  rw [course]
  split
  · next he => rw [he] at h; cases h
  · rfl

/-- **The machine follows the course** that the results of its attempts determine: it counts the same
failures, starts the same attempts after the same waits, and ends the same way. -/
theorem run_follows_course (s : SupervisorSettings) (words : source.State)
    (sequence : Nat → AttemptResult) (events : List SupervisorEvent)
    (h : ∀ i result, (results s (start words).1 events)[i]? = some result →
      sequence (i + 1) = result) :
    let last := run s (start words).1 events
    let all := course s words sequence (results s (start words).1 events).length
    last.1.progress = all.1.progress ∧ outcome? last.1.phase = outcome? all.1.phase ∧
      (.discover :: last.2).filter isTurn ++ owed last.1.phase = all.2 := by
  -- Events are added at the end, so that the course so far is the one of the hypothesis.
  induction events using List.reverseRecOn with
  | nil => exact ⟨rfl, rfl, rfl⟩
  | append_singleton events event ih =>
    simp only [results_concat, run_concat] at h ⊢
    obtain ⟨hp, ho, hc⟩ := ih fun i result hi =>
      h i result (by rw [List.getElem?_append_left (List.getElem?_eq_some_iff.mp hi).1]; exact hi)
    generalize run s (start words).1 events = last at *
    rcases step_cases s last.1 event with ⟨result, hr, he⟩ | ⟨hr, next, calls, hm, he⟩
    · -- The event ends an attempt, which is the next one of the course.
      obtain ⟨hw, hf⟩ := not_waiting_of_result hr
      have hnext : sequence ((results s (start words).1 events).length + 1) = result :=
        h _ result (by simp [hr])
      obtain ⟨ap, ao, ac⟩ :=
        attempt_turns s (course s words sequence (results s (start words).1 events).length).1 result
      rw [hr, Option.toList_some, List.length_append, List.length_singleton,
        course_succ_of_not_finished s words sequence _ (ho ▸ hf), hnext, he, hp]
      refine ⟨ap.symm, ao.symm, ?_⟩
      rw [← ac, ← hc, hw]
      simp [List.filter_cons, isTurn]
    · -- The attempt goes on, or a wait ends, which the course has counted as a turn before.
      obtain ⟨mo, mc⟩ := hm.turns
      rw [hr, Option.toList_none, List.append_nil, he]
      refine ⟨hp, mo.trans ho, ?_⟩
      rw [← hc, ← mc]
      simp [List.filter_cons, isTurn]

/-- **The results of its attempts determine a run.**  As long as none of them ends it, the run counts
its attempts and waits after each; the first one that ends it is its last.  Without a budget the run
does not end for want of one, and a budget is never overdrawn.  The machine makes the same turns. -/
theorem results_determine_run (s : SupervisorSettings) (hj : s.backoff.jitter = false)
    (words : source.State) (sequence : Nat → AttemptResult) :
    (∀ n, GoesOn s sequence n →
      (course s words sequence n).1.phase = .discovering ∧
        (course s words sequence n).1.progress.retry.attempts.toNat = counted n ∧
        (course s words sequence n).2 = turns s n) ∧
    (∀ n outcome, GoesOn s sequence n → stops? s (n + 1) (sequence (n + 1)) = some outcome →
      ∀ m, n + 1 ≤ m →
        (course s words sequence m).1.phase = .finished outcome ∧
          (course s words sequence m).2 = turns s n) ∧
    (s.retryBudget = none →
      ∀ n, (course s words sequence n).1.phase ≠ .finished (.ok .retriesExhausted)) ∧
    (∀ n, GoesOn s sequence (n + 1) →
      ∃ left, ((course s words sequence n).1.progress.decide s (sequence (n + 1))).1 =
          .again (waitAfter s (n + 1)) left ∧
        left.map UInt32.toNat = s.retryBudget.map (fun b => b.toNat - counted (n + 1)) ∧
        ∀ b ∈ s.retryBudget, counted (n + 1) < b.toNat) ∧
    ∀ events, (∀ i result, (results s (start words).1 events)[i]? = some result →
        sequence (i + 1) = result) →
      let last := run s (start words).1 events
      let all := course s words sequence (results s (start words).1 events).length
      last.1.progress = all.1.progress ∧ outcome? last.1.phase = outcome? all.1.phase ∧
        (.discover :: last.2).filter isTurn ++ owed last.1.phase = all.2 := by
  refine ⟨fun n h => ?_, fun n outcome h hs m hm => ?_, course_ne_exhausted hj,
    fun n h => budget_left hj h, run_follows_course s words sequence⟩
  · obtain ⟨p, hp, hc⟩ := course_of_going_on words hj n h
    rw [hc]
    exact ⟨rfl, hp, rfl⟩
  · obtain ⟨p, hc⟩ := course_of_stop words hj h hs hm
    rw [hc]
    exact ⟨rfl, rfl⟩

/-- Three attempts with doubled waits: a restart that failed, a connection that was lost, and one that
was refused. -/
theorem results_determine_run_of_three :
    let s : SupervisorSettings :=
      { registration := { name := "n", executors := 1, fsRoot := "/", labels := .empty }
        verify := true
        retryBudget := some 3
        backoff := { policy := .exponential, interval := 2, maxInterval := 5 }
        noRetryAfterConnected := true }
    let sequence : Nat → AttemptResult
      | 1 => .restartFailed ⟨.notFound, .plain⟩
      | 2 => .failed (.transport .signaled)
      | _ => .failed (.protocol (.http .noConnection))
    s.backoff.jitter = false ∧
      (@course (.progression 1) s (0 : UInt64) sequence 7).1.phase =
        .finished (.ok .retriesExhausted) ∧
      (@course (.progression 1) s (0 : UInt64) sequence 7).2 =
        [.discover, .sleep 2, .discover, .sleep 4, .discover] := by
  intro s sequence
  have hg : GoesOn s sequence 2 := by
    intro k h₁ h₂
    obtain rfl | rfl : k = 1 ∨ k = 2 := by omega
    · rfl
    · rfl
  have h := (@results_determine_run (.progression 1) s rfl (0 : UInt64) sequence).2.1
    2 (.ok .retriesExhausted) hg rfl 7 (by decide)
  exact ⟨rfl, h.1, h.2⟩

end Supervisor

end NodeAgent
