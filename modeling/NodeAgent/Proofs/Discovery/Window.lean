import Mathlib.Logic.Function.Iterate
import NodeAgent.Discovery.Window

/-!
# The clock during the discovery window

Listening goes in steps: a read, which ends with something that was read or at the deadline, and after a
failed read a pause.  What is read may come without end, and then the steps may have no end either.

A pause is cut to the time that remained when the failed read started.  By its end less may remain, and a
pause that does not fit into that outlasts the window.

## Main definitions

* `Listening`, `Listening.step`: where listening stands, and the step from there.
* `Listening.after`: where it stands after so many steps.
* `Listening.PauseFits`: a pause that ends within the window.

## Main results

* `exists_iterate_eq_collect`: with finitely many arrivals, the steps lead to what is collected.
* `clock_step_le`, `pauseFits_of_clock_step_le`: a step stays within the window exactly when a pause
  fits.
* `clock_in_window_iff`: the same for all steps, and by how much the window is outlasted otherwise.
-/

namespace NodeAgent

/-- **Where listening stands.** -/
inductive Listening
  /-- The clock is looked at, and another read may start. -/
  | turning (c : Collection)
  /-- A read has failed.  So much remained of the window when it started. -/
  | pausing (c : Collection) (remaining : Nat)
  /-- No more is read. -/
  | ended (c : Collection)

namespace Listening

/-- What was collected so far. -/
def collection : Listening → Collection
  | turning c => c
  | pausing c _ => c
  | ended c => c

/-- What the clock shows. -/
def clock (r : Listening) : Nat :=
  r.collection.clock

/-- **What a read leads to.**  Without an arrival it lasts until the deadline. -/
def read (pinned : Option Url) (deadline : Nat) (c : Collection) : Option Arrival → Listening
  | none => ended { c with clock := deadline, reads := c.reads + 1 }
  | some arrival =>
    let remaining := deadline - c.clock
    if remaining < arrival.after then ended { c with clock := deadline, reads := c.reads + 1 }
    else
      let here := { c with clock := c.clock + arrival.after, reads := c.reads + 1 }
      match arrival.what with
      | .datagram payload => turning (here.receive pinned payload)
      | .failure _ =>
        let failed := { here with failures := c.failures + 1 }
        if failureLimit ≤ failed.failures then ended failed else pausing failed remaining

/-- **A step.**  The reads take the arrivals of the source one after the other. -/
def step (pinned : Option Url) (deadline : Nat) (source : Nat → Option Arrival) : Listening → Listening
  | turning c => if deadline ≤ c.clock then ended c else read pinned deadline c (source c.reads)
  | pausing c remaining => turning { c with clock := c.clock + min failurePause remaining }
  | ended c => ended c

/-- **Where listening stands after so many steps** from the start of the window. -/
def after (pinned : Option Url) (deadline : Nat) (source : Nat → Option Arrival) (n : Nat) : Listening :=
  (step pinned deadline source)^[n] (turning {})

/-- **A pause that ends within the window.** -/
def PauseFits (deadline : Nat) : Listening → Prop
  | pausing c remaining => min failurePause remaining ≤ deadline - c.clock
  | _ => True

variable {pinned : Option Url} {deadline : Nat} {source : Nat → Option Arrival} {c : Collection}

/-- **What can come of a read**: it lasts until the deadline, or it ends with an arrival in time. -/
theorem read_cases (arrival? : Option Arrival) :
    read pinned deadline c arrival? = ended { c with clock := deadline, reads := c.reads + 1 } ∨
    ∃ arrival c', arrival? = some arrival ∧ arrival.after ≤ deadline - c.clock ∧
      c'.clock = c.clock + arrival.after ∧ c'.reads = c.reads + 1 ∧
      (read pinned deadline c arrival? = turning c' ∨
        read pinned deadline c arrival? = pausing c' (deadline - c.clock) ∨
        read pinned deadline c arrival? = ended c') := by
  cases arrival? with
  | none => exact .inl rfl
  | some arrival =>
    by_cases hlate : deadline - c.clock < arrival.after
    · exact .inl (if_pos hlate)
    · right
      -- What comes in time is a payload or a failure, and too many failures end it all.
      have hread : read pinned deadline c (some arrival) = _ := if_neg hlate
      cases hwhat : arrival.what with
      | datagram payload =>
        rw [hwhat] at hread
        exact ⟨arrival, _, rfl, Nat.not_lt.mp hlate, rfl, rfl, .inl hread⟩
      | failure cause =>
        rw [hwhat] at hread
        refine ⟨arrival, { c with
          clock := c.clock + arrival.after
          failures := c.failures + 1
          reads := c.reads + 1 }, rfl, Nat.not_lt.mp hlate, rfl, rfl, .inr ?_⟩
        rw [hread]
        by_cases hlimit : failureLimit ≤ c.failures + 1
        · exact .inr (if_pos hlimit)
        · exact .inl (if_neg hlimit)

/-! ## Finitely many arrivals -/

/-- What is collected goes on from where a read leads to. -/
theorem collect_cons (arrival : Arrival) (later : List Arrival) (h : c.clock < deadline) :
    collect pinned deadline (arrival :: later) c =
      match read pinned deadline c (some arrival) with
      | turning c' => collect pinned deadline later c'
      | pausing c' remaining =>
        collect pinned deadline later { c' with clock := c'.clock + min failurePause remaining }
      | ended c' => c' := by
  have hremain : deadline - c.clock ≠ 0 := by omega
  rw [collect, if_neg hremain, read]
  by_cases hlate : deadline - c.clock < arrival.after
  · simp only [if_pos hlate]
  · simp only [if_neg hlate]
    cases arrival.what with
    | datagram payload => rfl
    | failure cause =>
      by_cases hlimit : failureLimit ≤ c.failures + 1
      · simp only [if_pos hlimit]
      · simp only [if_neg hlimit]

/-- **The steps lead to what is collected** from the arrivals that are still to come. -/
theorem exists_iterate_eq_collect (arrivals : List Arrival)
    (h : ∀ i, source (c.reads + i) = arrivals[i]?) :
    ∃ n, (step pinned deadline source)^[n] (turning c) =
      ended (collect pinned deadline arrivals c) := by
  -- The induction is on the arrivals; each turn of the loop takes one of them.
  induction arrivals generalizing c with
  | nil =>
    have hnone : source c.reads = none := h 0
    refine ⟨1, ?_⟩
    by_cases hd : deadline ≤ c.clock
    · simp [step, collect, hd]
    · simp [step, collect, hd, hnone, read]
  | cons arrival later ih =>
    have hsome : source c.reads = some arrival := h 0
    have hlater : ∀ c' : Collection, c'.reads = c.reads + 1 →
        ∀ i, source (c'.reads + i) = later[i]? := by
      intro c' hc' i
      rw [hc', Nat.add_assoc, Nat.add_comm 1 i, h (i + 1)]
      rfl
    by_cases hd : deadline ≤ c.clock
    · refine ⟨1, ?_⟩
      simp [step, collect, hd]
    · have hstep : step pinned deadline source (turning c) =
          read pinned deadline c (some arrival) := by
        rw [step, if_neg hd, hsome]
      rw [collect_cons arrival later (Nat.lt_of_not_le hd)]
      rcases read_cases (some arrival) with hr | ⟨_, c', -, -, -, hreads, hr | hr | hr⟩
      · refine ⟨1, ?_⟩
        rw [Function.iterate_one, hstep, hr]
      · obtain ⟨n, hn⟩ := ih (hlater c' hreads)
        refine ⟨n + 1, ?_⟩
        rw [Function.iterate_succ_apply, hstep, hr, hn]
      · -- After a failure the pause is a step of its own.
        obtain ⟨n, hn⟩ := ih (c := { c' with
          clock := c'.clock + min failurePause (deadline - c.clock) }) (hlater _ hreads)
        refine ⟨n + 2, ?_⟩
        rw [Function.iterate_succ_apply, hstep, hr, Function.iterate_succ_apply, step, hn]
      · refine ⟨1, ?_⟩
        rw [Function.iterate_one, hstep, hr]

/-! ## The clock -/

/-- A pause starts within the window, and the clock is at most one pause behind its end. -/
def InTime (deadline : Nat) : Listening → Prop
  | turning c => c.clock ≤ deadline + failurePause
  | pausing c _ => c.clock ≤ deadline
  | ended c => c.clock ≤ deadline + failurePause

theorem InTime.clock_le {r : Listening} (h : r.InTime deadline) :
    r.clock ≤ deadline + failurePause := by
  cases r with
  | turning c => exact h
  | pausing c remaining => exact Nat.le_add_right_of_le h
  | ended c => exact h

/-- A read ends at the deadline at the latest. -/
theorem clock_read_le (h : c.clock ≤ deadline) (arrival? : Option Arrival) :
    (read pinned deadline c arrival?).clock ≤ deadline := by
  rcases read_cases arrival? with hr | ⟨arrival, c', -, hafter, hclock, -, hr | hr | hr⟩
  · rw [hr]
    exact Nat.le_refl _
  -- Whatever came, it came before the rest of the window was over.
  all_goals
    rw [hr]
    show c'.clock ≤ deadline
    omega

theorem inTime_of_clock_le {r : Listening} (h : r.clock ≤ deadline) : r.InTime deadline := by
  cases r with
  | turning c => exact Nat.le_add_right_of_le h
  | pausing c remaining => exact h
  | ended c => exact Nat.le_add_right_of_le h

theorem inTime_step {r : Listening} (h : r.InTime deadline) :
    (step pinned deadline source r).InTime deadline := by
  cases r with
  | turning c =>
    rw [step]
    split
    · exact h
    · next hd => exact inTime_of_clock_le (clock_read_le (Nat.le_of_not_le hd) _)
  | pausing c remaining =>
    have hpause : min failurePause remaining ≤ failurePause := Nat.min_le_left _ _
    exact Nat.add_le_add h hpause
  | ended c => exact h

/-- **A step stays within the window** if a pause fits. -/
theorem clock_step_le {r : Listening} (h : r.clock ≤ deadline) (hp : r.PauseFits deadline) :
    (step pinned deadline source r).clock ≤ deadline := by
  cases r with
  | turning c =>
    rw [step]
    split
    · exact h
    · exact clock_read_le h _
  | pausing c remaining =>
    have hclock : c.clock ≤ deadline := h
    have hfits : min failurePause remaining ≤ deadline - c.clock := hp
    change c.clock + min failurePause remaining ≤ deadline
    omega
  | ended c => exact h

/-- **A pause fits** if the step stays within the window. -/
theorem pauseFits_of_clock_step_le {r : Listening}
    (h : (step pinned deadline source r).clock ≤ deadline) : r.PauseFits deadline := by
  cases r with
  | turning c => trivial
  | pausing c remaining =>
    have hclock : c.clock + min failurePause remaining ≤ deadline := h
    change min failurePause remaining ≤ deadline - c.clock
    omega
  | ended c => trivial

theorem after_succ (n : Nat) :
    after pinned deadline source (n + 1) =
      step pinned deadline source (after pinned deadline source n) :=
  Function.iterate_succ_apply' _ n _

theorem inTime_after (n : Nat) : (after pinned deadline source n).InTime deadline := by
  induction n with
  | zero => exact Nat.zero_le _
  | succ n ih =>
    rw [after_succ]
    exact inTime_step ih

/-- **The clock stays within the discovery window exactly when every pause fits** into what is left of
the window.  No step outlasts the window by more than a pause.  When finitely many arrivals come, what is
collected is where the steps end. -/
theorem clock_in_window_iff (pinned : Option Url) (window : Nat) (source : Nat → Option Arrival) :
    ((∀ n, (after pinned window source n).clock ≤ window) ↔
      ∀ n, (after pinned window source n).PauseFits window) ∧
    (∀ n, (after pinned window source n).clock ≤ window + failurePause) ∧
    ∀ arrivals : List Arrival, ∃ n, after pinned window (fun i => arrivals[i]?) n =
      ended (collect pinned window arrivals {}) := by
  refine ⟨⟨?_, ?_⟩, ?_, ?_⟩
  · intro h n
    apply pauseFits_of_clock_step_le
    rw [← after_succ]
    exact h (n + 1)
  · intro h n
    -- The clock is carried from step to step by the pauses that fit.
    induction n with
    | zero => exact Nat.zero_le _
    | succ n ih =>
      rw [after_succ]
      exact clock_step_le ih (h n)
  · intro n
    exact (inTime_after n).clock_le
  · intro arrivals
    apply exists_iterate_eq_collect
    intro i
    simp

/-- A read that fails ten milliseconds before the end of the window is followed by a whole pause. -/
theorem late_failure_outlasts_window :
    let late : Arrival := ⟨90, .failure ⟨.connectionRefused, .plain⟩⟩
    (collect none 100 [late] {}).clock = 140 ∧
      ¬ ∀ n, (after none 100 (fun i => [late][i]?) n).clock ≤ 100 := by
  constructor
  · decide
  · intro h
    -- The read is the first step, and the pause the second.
    exact absurd (h 2) (by decide)

end Listening

end NodeAgent
