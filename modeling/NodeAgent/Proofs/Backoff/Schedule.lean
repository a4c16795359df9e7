import NodeAgent.Proofs.Backoff.Policy
import NodeAgent.Proofs.Backoff.Uniform
import NodeAgent.Proofs.Config.Validate
import NodeAgent.Proofs.Supervisor.Attempts
import NodeAgent.Startup.Plan

/-!
# The waits of a schedule

A schedule hands out wait after wait, for ever.  The `n`-th one is at most the wait after `n - 1`
failures, and exactly that one unless waits are randomised.  What was drawn for earlier waits does not
matter.

## Main definitions

* `RetryState.after`: the schedule after a number of failures.
* `RetryState.handedOut`: the wait that a failure gets.

## Main results

* `attempts_after`, `handedOut_eq`, `handedOut_le`: the failures that are counted, and the waits.
* `backoff_of_validate`: intervals of a configuration that can work.
* `exists_turns`: a run waits between attempts, whatever happens.
* `waits_follow_policy`: the waits of policies, of schedules and of runs.
-/

namespace NodeAgent

open Supervisor

/-! ## Waits -/

namespace RetryState

variable (source : Words) (config : BackoffConfig) (words : source.State)

/-- A wait that is drawn is at most the one that it stands for. -/
theorem drawWait_le (state : RetryState) :
    (state.drawWait source config words).1 ≤ topWait config state := by
  rw [drawWait]
  split
  · exact source.upTo_le _ _
  · exact UInt64.le_refl _

/-- **The schedule after `n` failures**, and the random words that are left. -/
def after : Nat → RetryState × source.State
  | 0 => ({}, words)
  | n + 1 => (after n).1.nextWaitJittered source config (after n).2

/-- **The wait that the `n`-th failure gets.** -/
def handedOut (n : Nat) : UInt64 :=
  ((after source config words (n - 1)).1.drawWait source config (after source config words (n - 1)).2).1

/-- **The failures that are counted**, up to the greatest number of 32 bits. -/
theorem attempts_after (n : Nat) : (after source config words n).1.attempts.toNat = counted n := by
  induction n with
  | zero => rfl
  | succ n ih => exact counted_countUp ih

/-- The longest wait that the `n`-th failure can get. -/
theorem topWait_after (n : Nat) :
    topWait config (after source config words n).1 =
      waitFor config.policy (counted n).toUInt32 config.interval config.maxInterval := by
  have hcounted : (counted n).toUInt32 = (after source config words n).1.attempts := by
    rw [← attempts_after source config words n]
    exact UInt32.ofNat_toNat
  rw [topWait, hcounted]

theorem handedOut_eq (hj : config.jitter = false) (n : Nat) :
    handedOut source config words n =
      waitFor config.policy (counted (n - 1)).toUInt32 config.interval config.maxInterval := by
  rw [handedOut, drawWait, if_neg (by simp [hj]), topWait_after]

theorem handedOut_le (n : Nat) :
    handedOut source config words n ≤
      waitFor config.policy (counted (n - 1)).toUInt32 config.interval config.maxInterval := by
  rw [← topWait_after source config words]
  exact drawWait_le source config _ _

/-- The wait that is handed out is the one that is kept. -/
theorem lastWait_after {n : Nat} (h : 1 ≤ n) :
    (after source config words n).1.lastWait = handedOut source config words n := by
  obtain ⟨n, rfl⟩ := Nat.exists_eq_add_of_le' h
  rfl

end RetryState

/-! ## Configurations -/

/-- **A configuration that can work** has an interval, which is within the bound. -/
theorem backoff_of_validate {c : NodeConfig} (h : c.validate = .ok ()) :
    1 ≤ c.backoff.interval ∧ c.backoff.interval ≤ c.backoff.maxInterval := by
  have hworks := NodeConfig.validate_eq_ok_iff.mp h
  refine ⟨?_, hworks.interval_le⟩
  rw [UInt64.le_iff_toNat_le]
  refine Nat.one_le_iff_ne_zero.mpr fun hzero => ?_
  exact hworks.interval (UInt64.toNat_inj.mp hzero)

/-! ## Runs -/

namespace Supervisor

variable {source : Words}

/-- A run along a sequence of results takes turns, as many as attempts go on. -/
theorem exists_turns_of_course {s : SupervisorSettings} (hj : s.backoff.jitter = false)
    (words : source.State) (sequence : Nat → AttemptResult) (n : Nat) :
    ∃ m, (course s words sequence n).2 = turns s m := by
  -- The run is still going on, or an attempt before has stopped it.
  by_cases h : GoesOn s sequence n
  · obtain ⟨p, -, hc⟩ := course_of_going_on words hj n h
    exact ⟨n, by rw [hc]⟩
  · obtain ⟨m, outcome, hm, hgoing, hstop⟩ := exists_first_stop h
    obtain ⟨p, hc⟩ := course_of_stop words hj hgoing hstop hm
    exact ⟨m, by rw [hc]⟩

/-- **A run waits between attempts**, whatever happens: its turns are attempts with the waits of the
schedule between them. -/
theorem exists_turns {s : SupervisorSettings} (hj : s.backoff.jitter = false) (words : source.State)
    (events : List SupervisorEvent) :
    let last := run s (start words).1 events
    ∃ n, ((start words).2 ++ last.2).filter isTurn ++ owed last.1.phase = turns s n := by
  -- The results of the attempts go on in any way.
  let sequence (k : Nat) : AttemptResult :=
    ((results s (start words).1 events)[k - 1]?).getD .closed
  obtain ⟨-, -, hturns⟩ := run_follows_course s words sequence events fun i result hi => by
    simp only [sequence, Nat.add_sub_cancel, hi, Option.getD_some]
  obtain ⟨n, hn⟩ := exists_turns_of_course hj words sequence (results s (start words).1 events).length
  exact ⟨n, hturns.trans hn⟩

end Supervisor

/-! ## All waits -/

/-- **Waits follow their policy.**  The wait after a number of failures is the one in unbounded numbers,
cut off at the bound; it grows with the number of failures.  A schedule hands out these waits one after
the other, for ever, and counts the failures as far as it can; randomised waits are no longer.  With a
configuration that can work, a run waits for the interval at least between any two attempts. -/
theorem waits_follow_policy :
    (∀ (policy : BackoffPolicy) (attempt : UInt32) (interval maxInterval : UInt64),
      (waitFor policy attempt interval maxInterval).toNat =
          min (policy.unbounded attempt.toNat interval.toNat) maxInterval.toNat ∧
        waitFor policy attempt interval maxInterval ≤ maxInterval ∧
        ∀ later, attempt ≤ later →
          waitFor policy attempt interval maxInterval ≤ waitFor policy later interval maxInterval) ∧
    (∀ (source : Words) (config : BackoffConfig) (words : source.State) (n : Nat), 1 ≤ n →
      let wait := RetryState.handedOut source config words n
      let top :=
        waitFor config.policy (counted (n - 1)).toUInt32 config.interval config.maxInterval
      let state := (RetryState.after source config words n).1
      wait ≤ top ∧ (config.jitter = false → wait = top) ∧
        state.attempts.toNat = counted n ∧ state.lastWait = wait) ∧
    ∀ c : NodeConfig, c.validate = .ok () → c.backoff.jitter = false →
      1 ≤ c.backoff.interval ∧
      (∀ (source : Words) (words : source.State) (n : Nat),
        c.backoff.interval ≤ RetryState.handedOut source c.backoff words n) ∧
      ∀ (registration : Registration) (argv : List String) (source : Words) (words : source.State)
        (events : List SupervisorEvent),
        let s := c.supervision registration argv
        let last := run s (start words).1 events
        ∃ n, ((start words).2 ++ last.2).filter isTurn ++ owed last.1.phase = turns s n ∧
          ∀ k, c.backoff.interval ≤ waitAfter s k := by
  refine ⟨?_, ?_, ?_⟩
  · intro policy attempt interval maxInterval
    exact ⟨toNat_waitFor _ _ _ _, waitFor_le, fun later => waitFor_mono⟩
  · intro source config words n hn
    exact ⟨RetryState.handedOut_le _ _ _ n, fun hj => RetryState.handedOut_eq _ _ _ hj n,
      RetryState.attempts_after _ _ _ n, RetryState.lastWait_after _ _ _ hn⟩
  · intro c hc hj
    obtain ⟨hinterval, hbound⟩ := backoff_of_validate hc
    refine ⟨hinterval, ?_, ?_⟩
    · intro source words n
      rw [RetryState.handedOut_eq _ _ _ hj]
      exact le_waitFor hbound
    · intro registration argv source words events
      obtain ⟨n, hn⟩ := exists_turns (s := c.supervision registration argv) hj words events
      exact ⟨n, hn, fun k => le_waitFor hbound⟩

/-- Waits that double and stop at a bound, of a configuration that can work. -/
theorem waits_follow_policy_of_doubling :
    let c : NodeConfig :=
      { discoveryPort := wellKnownPort
        executors := 1
        fsRoot := "/"
        backoff := { policy := .exponential, interval := 2, maxInterval := 5 } }
    c.validate = .ok () ∧
      RetryState.handedOut (.progression 1) c.backoff (0 : UInt64) 2 = 4 ∧
      2 ≤ RetryState.handedOut (.progression 1) c.backoff (0 : UInt64) (2 ^ 40) := by
  intro c
  have hc : c.validate = .ok () := by decide +kernel
  obtain ⟨-, hschedule, hconfig⟩ := waits_follow_policy
  obtain ⟨-, hwait, -, -⟩ := hschedule (.progression 1) c.backoff (0 : UInt64) 2 (by decide)
  obtain ⟨-, hlong, -⟩ := hconfig c hc rfl
  exact ⟨hc, (hwait rfl).trans (by decide), hlong (.progression 1) (0 : UInt64) (2 ^ 40)⟩

end NodeAgent
