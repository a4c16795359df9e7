import NodeAgent.Config.File
import NodeAgent.Discovery.Broadcast
import NodeAgent.Proofs.Backoff.Schedule
import NodeAgent.Proofs.Config.Validate
import NodeAgent.Proofs.Discovery.Window

/-!
# The times that a configuration leads to

The times in a configuration are numbers of seconds of 64 bits, and none is refused for being long.  Most of
them are only waited for, and the differences between times are made so that they do not go below zero.
But the end of the discovery window is a sum, and a clock can tell only half as many seconds: with a window
that is too wide the agent breaks down as soon as it has sent its broadcast.

## Main definitions

* `NodeConfig.Searches`, `NodeConfig.BreaksDown`: a search for the coordinator, and one that breaks down.
* `Listening.Measured`: listening that started at some time.
* `NodeConfig.KeepsTime`: all other times.

## Main results

* `Broadcast.discover_eq_none_iff`: when a broadcast breaks down.
* `Listening.measured_iterate`: time does not run backwards while answers are collected.
* `sleep_le_of_mem_run`: no run sleeps longer than the longest interval.
* `breaks_down_iff_window_too_wide`: which configurations that are not refused break down.
* `wide_window_breaks_down`: one that does.
-/

namespace NodeAgent

/-! ## The end of the window -/

theorem deadline?_eq_none_iff {now window : Nat} :
    deadline? now window = none ↔ endOfTime ≤ now + window := by
  unfold deadline?
  split
  · next h => exact iff_of_false nofun (Nat.not_le.mpr h)
  · next h => exact iff_of_true rfl (Nat.not_lt.mp h)

/-- **A broadcast breaks down** when it could be sent and its window has no end that a clock can tell. -/
theorem Broadcast.discover_eq_none_iff {b : Broadcast} {now : Nat}
    {network : Except SystemError (List Arrival)} {source : Words} {words : source.State} :
    b.discover now network source words = none ↔
      (∃ arrivals, network = .ok arrivals) ∧ endOfTime ≤ now + b.window := by
  cases network with
  | error cause => exact iff_of_false nofun (fun h => nomatch h.1)
  | ok arrivals =>
    rw [discover, Option.map_eq_none_iff, deadline?_eq_none_iff]
    exact (and_iff_right ⟨arrivals, rfl⟩).symm

namespace NodeConfig

variable {c : NodeConfig}

/-- **A configuration with which the coordinator is searched for** by broadcast. -/
def Searches (c : NodeConfig) : Prop :=
  c.url = none ∨ c.broadcast = true

/-- The milliseconds of the discovery window. -/
def window (c : NodeConfig) : Nat :=
  1000 * c.discoveryWindow.toNat

/-- **A search that starts now breaks down**, for some network and some random words. -/
def BreaksDown (c : NodeConfig) (now : Nat) : Prop :=
  ∃ mode b, c.discovery = .ok mode ∧ mode.broadcast? = some b ∧
    ∃ (network : Except SystemError (List Arrival)) (source : Words) (words : source.State),
      b.discover now network source words = none

/-- An address that is set is read as an address. -/
theorem isSome_of_coordinatorUrl {url? : Option Url} (h : c.coordinatorUrl = .ok url?) :
    url?.isSome = c.url.isSome := by
  unfold coordinatorUrl at h
  split at h
  · next hnone =>
    obtain rfl := Except.ok.inj h
    rw [hnone]
    rfl
  · next raw hsome =>
    rw [hsome]
    split at h
    · cases h
    · split at h
      · cases h
      · split at h
        · cases h
        · obtain rfl := Except.ok.inj h
          rfl

/-- **A configuration that can work** has a way to find the coordinator: by a broadcast with its window if
it is searched for, and else directly. -/
theorem exists_discovery (h : c.validate = .ok ()) : ∃ mode, c.discovery = .ok mode ∧
    (c.Searches → ∃ b, mode.broadcast? = some b ∧ b.window = c.window) ∧
    (¬ c.Searches → mode.broadcast? = none) := by
  obtain ⟨url?, hurl⟩ := (validate_eq_ok_iff.mp h).url
  have hset := isSome_of_coordinatorUrl hurl
  rw [discovery, hurl]
  cases url? with
  | none =>
    have hnone : c.url = none := by simpa using hset.symm
    exact ⟨_, rfl, fun _ => ⟨_, rfl, rfl⟩, fun hs => absurd (.inl hnone) hs⟩
  | some url =>
    have hsome : c.url ≠ none := by
      intro hnone
      rw [hnone] at hset
      cases hset
    cases hbroadcast : c.broadcast with
    | true =>
      exact ⟨_, rfl, fun _ => ⟨_, rfl, rfl⟩, fun hs => absurd (.inr hbroadcast) hs⟩
    | false =>
      refine ⟨_, rfl, fun hs => ?_, fun _ => rfl⟩
      rcases hs with hnone | htrue
      · exact absurd hnone hsome
      · cases hbroadcast.symm.trans htrue

/-- **A configuration that is not refused breaks down** exactly if it searches and the end of its window
is behind the end of time. -/
theorem breaksDown_iff (h : c.validate = .ok ()) (now : Nat) :
    c.BreaksDown now ↔ c.Searches ∧ endOfTime ≤ now + c.window := by
  obtain ⟨mode, hmode, hsearch, hdirect⟩ := exists_discovery h
  constructor
  · rintro ⟨mode', b, hmode', hb, network, source, words, hnone⟩
    obtain rfl := Except.ok.inj (hmode.symm.trans hmode')
    by_cases hs : c.Searches
    · obtain ⟨b', hb', hwindow⟩ := hsearch hs
      obtain rfl := Option.some.inj (hb.symm.trans hb')
      rw [← hwindow]
      exact ⟨hs, (Broadcast.discover_eq_none_iff.mp hnone).2⟩
    · cases hb.symm.trans (hdirect hs)
  · rintro ⟨hs, hlate⟩
    obtain ⟨b, hb, hwindow⟩ := hsearch hs
    refine ⟨mode, b, hmode, hb, .ok [], Words.progression 0, (0 : UInt64), ?_⟩
    rw [← hwindow] at hlate
    exact Broadcast.discover_eq_none_iff.mpr ⟨⟨[], rfl⟩, hlate⟩

end NodeConfig

/-! ## What remains of the window -/

namespace Listening

/-- **Listening that started at some time.**  The clock was not put back, and a pause was measured from
what remained of the window. -/
def Measured (start deadline : Nat) : Listening → Prop
  | turning c => start ≤ c.clock
  | pausing c remaining => start ≤ c.clock ∧ 0 < remaining ∧ remaining ≤ deadline - start
  | ended c => start ≤ c.clock

variable {pinned : Option Url} {start deadline : Nat} {source : Nat → Option Arrival} {c : Collection}

/-- A read takes no time back. -/
theorem measured_read (h : start ≤ c.clock) (hd : c.clock < deadline) (arrival? : Option Arrival) :
    (read pinned deadline c arrival?).Measured start deadline := by
  rcases read_cases arrival? with hr | ⟨arrival, c', -, -, hclock, -, hr | hr | hr⟩
  · rw [hr]
    change start ≤ deadline
    omega
  · rw [hr]
    change start ≤ c'.clock
    omega
  · rw [hr]
    refine ⟨?_, ?_, ?_⟩ <;> omega
  · rw [hr]
    change start ≤ c'.clock
    omega

/-- **Time does not run backwards** in a step. -/
theorem measured_step {r : Listening} (h : r.Measured start deadline) :
    (step pinned deadline source r).Measured start deadline := by
  cases r with
  | turning c =>
    rw [step]
    split
    · exact h
    · next hd => exact measured_read h (Nat.not_le.mp hd) _
  | pausing c remaining => exact Nat.le_add_right_of_le h.1
  | ended c => exact h

theorem measured_iterate (hc : c.clock = start) (n : Nat) :
    ((step pinned deadline source)^[n] (turning c)).Measured start deadline := by
  induction n with
  | zero => exact Nat.le_of_eq hc.symm
  | succ n ih =>
    rw [Function.iterate_succ_apply']
    exact measured_step ih

/-- A pause is measured from what remained of the window. -/
theorem pause_le_window (hc : c.clock = start) {n : Nat} {failed : Collection} {remaining : Nat}
    (h : (step pinned deadline source)^[n] (turning c) = pausing failed remaining) :
    0 < remaining ∧ remaining ≤ deadline - start := by
  have hmeasured : (pausing failed remaining).Measured start deadline := h ▸ measured_iterate hc n
  exact hmeasured.2

/-- **What remains of the window is told exactly** as long as it is not over.  Then no more is read. -/
theorem remaining_exact (hc : c.clock = start) {n : Nat} {turned : Collection}
    (h : (step pinned deadline source)^[n] (turning c) = turning turned) :
    deadline ≤ turned.clock ∧ step pinned deadline source (turning turned) = ended turned ∨
      turned.clock + (deadline - turned.clock) = deadline ∧ 0 < deadline - turned.clock ∧
        deadline - turned.clock ≤ deadline - start := by
  have hmeasured : (turning turned).Measured start deadline := h ▸ measured_iterate hc n
  have hstart : start ≤ turned.clock := hmeasured
  by_cases hd : deadline ≤ turned.clock
  · exact .inl ⟨hd, if_pos hd⟩
  · right
    omega

end Listening

/-! ## Budgets and sleeps -/

namespace Supervisor

variable {source : Words} {s : SupervisorSettings} {p : Progress source}

theorem tryAgain_eq_again {budget? : Option UInt32} {wait : UInt64} {left : Option UInt32}
    (h : p.tryAgain budget? = .again wait left) : wait = p.retry.lastWait ∧
      ∀ n, left = some n → ∃ budget, budget? = some budget ∧ p.retry.attempts < budget ∧
        n = budget - p.retry.attempts := by
  cases budget? with
  | none =>
    cases h
    exact ⟨rfl, nofun⟩
  | some budget =>
    rw [Progress.tryAgain] at h
    split at h
    · cases h
    · next hlt =>
      cases h
      refine ⟨rfl, ?_⟩
      rintro n ⟨⟩
      exact ⟨budget, rfl, UInt32.not_le.mp hlt, rfl⟩

/-- **What is left of the budget is told exactly**, and at least one attempt is left. -/
theorem left_of_again {result : AttemptResult} {wait : UInt64} {left : UInt32}
    (h : (p.decide s result).1 = .again wait (some left)) :
    ∃ budget, s.retryBudget = some budget ∧ 0 < left.toNat ∧
      left.toNat + (p.decide s result).2.retry.attempts.toNat = budget.toNat := by
  rw [decide_snd_of_again h]
  rw [decide_of_again h] at h
  obtain ⟨-, hleft⟩ := tryAgain_eq_again h
  obtain ⟨budget, hbudget, hlt, rfl⟩ := hleft left rfl
  rw [UInt32.toNat_sub_of_le _ _ (UInt32.le_of_lt hlt)]
  rw [UInt32.lt_iff_toNat_lt] at hlt
  exact ⟨budget, hbudget, Nat.sub_pos_of_lt hlt, Nat.sub_add_cancel (Nat.le_of_lt hlt)⟩

/-- **No wait is longer than the longest interval**, randomised or not. -/
theorem wait_le_of_again {result : AttemptResult} {wait : UInt64} {left : Option UInt32}
    (h : (p.decide s result).1 = .again wait left) : wait ≤ s.backoff.maxInterval := by
  rw [decide_of_again h] at h
  obtain ⟨rfl, -⟩ := tryAgain_eq_again h
  exact UInt64.le_trans (RetryState.drawWait_le source s.backoff p.words p.retry) waitFor_le

/-- No move within an attempt sleeps. -/
theorem Move.sleep_not_mem {phase next : Phase} {event : SupervisorEvent} {calls : List SupervisorCall}
    (h : Move s phase event next calls) (wait : UInt64) : .sleep wait ∉ calls := by
  cases h with
  | watch link watch next event call? h => simp [labelCalls]
  | finishWatch link watch next result event call? h hn => simp [labelCalls]
  | _ => simp

theorem sleep_le_of_mem_conclude {result : AttemptResult} {wait : UInt64}
    (h : .sleep wait ∈ (conclude s p result).2) : wait ≤ s.backoff.maxInterval := by
  unfold conclude at h
  split at h
  · cases h
  · next heq =>
    obtain rfl : wait = _ := SupervisorCall.sleep.inj (List.mem_singleton.mp h)
    exact wait_le_of_again (congrArg Prod.fst heq)

/-- **No step sleeps longer than the longest interval.** -/
theorem sleep_le_of_mem_step {state : Supervisor source} {event : SupervisorEvent} {wait : UInt64}
    (h : .sleep wait ∈ (step s state event).2) : wait ≤ s.backoff.maxInterval := by
  rcases step_cases s state event with ⟨result, -, hstep⟩ | ⟨-, next, calls, hmove, hstep⟩
  · rw [hstep] at h
    exact sleep_le_of_mem_conclude h
  · rw [hstep] at h
    exact absurd h (hmove.sleep_not_mem wait)

/-- **No run sleeps longer than the longest interval.** -/
theorem sleep_le_of_mem_run {state : Supervisor source} {events : List SupervisorEvent} {wait : UInt64}
    (h : .sleep wait ∈ (run s state events).2) : wait ≤ s.backoff.maxInterval := by
  induction events generalizing state with
  | nil => cases h
  | cons event events ih =>
    rw [run_cons] at h
    rcases List.mem_append.mp h with hstep | hlater
    · exact sleep_le_of_mem_step hstep
    · exact ih hlater

end Supervisor

/-! ## Configurations -/

open Listening Supervisor

/-- **All other times that a configuration leads to** are told exactly. -/
structure NodeConfig.KeepsTime (c : NodeConfig) : Prop where
  /-- Whenever the clock is looked at, what remains of the window is told exactly and is no more than the
  window.  When it is over, no more is read. -/
  remaining : ∀ (pinned : Option Url) (now : Nat) (arrivals : Nat → Option Arrival) (n : Nat)
    (turned : Collection),
    (step pinned (now + c.window) arrivals)^[n] (turning { clock := now }) = turning turned →
      now + c.window ≤ turned.clock ∧
        step pinned (now + c.window) arrivals (turning turned) = ended turned ∨
      turned.clock + (now + c.window - turned.clock) = now + c.window ∧
        0 < now + c.window - turned.clock ∧ now + c.window - turned.clock ≤ c.window
  /-- A pause is cut to a part of the window that is left. -/
  pauses : ∀ (pinned : Option Url) (now : Nat) (arrivals : Nat → Option Arrival) (n : Nat)
    (failed : Collection) (remaining : Nat),
    (step pinned (now + c.window) arrivals)^[n] (turning { clock := now }) = pausing failed remaining →
      0 < remaining ∧ remaining ≤ c.window
  /-- What is left of the budget is told exactly. -/
  budget : ∀ (registration : Registration) (argv : List String) (source : Words) (p : Progress source)
    (result : AttemptResult) (wait : UInt64) (left : UInt32),
    (p.decide (c.supervision registration argv) result).1 = .again wait (some left) →
      ∃ budget, c.retryBudget = some budget ∧ 0 < left.toNat ∧
        left.toNat + (p.decide (c.supervision registration argv) result).2.retry.attempts.toNat =
          budget.toNat
  /-- A run sleeps for a number of seconds up to the longest interval. -/
  sleeps : ∀ (registration : Registration) (argv : List String) (source : Words)
    (words : source.State) (events : List SupervisorEvent) (wait : UInt64),
    .sleep wait ∈ (start words).2 ++
        (run (c.supervision registration argv) (start words).1 events).2 →
      wait ≤ c.backoff.maxInterval
  /-- The watch sleeps for a number of seconds, at least one, between its looks. -/
  polls : ∀ (registration : Registration) (argv : List String) (watch : WatchSettings),
    (c.supervision registration argv).labelWatch = some watch →
      ∃ seconds : UInt64, seconds ≠ 0 ∧ watch.pollInterval = 1000 * seconds.toNat

theorem keepsTime_of_validate {c : NodeConfig} (h : c.validate = .ok ()) : c.KeepsTime := by
  constructor
  · intro pinned now arrivals n turned hturned
    have hremaining := remaining_exact rfl hturned
    rwa [Nat.add_sub_cancel_left] at hremaining
  · intro pinned now arrivals n failed remaining hfailed
    have hpause := pause_le_window rfl hfailed
    rwa [Nat.add_sub_cancel_left] at hpause
  · intro registration argv source p result wait left hagain
    exact left_of_again hagain
  · intro registration argv source words events wait hsleep
    rcases List.mem_append.mp hsleep with hstart | hrun
    · cases List.mem_singleton.mp hstart
    · exact sleep_le_of_mem_run hrun
  · intro registration argv watch hwatch
    obtain ⟨path, -, rfl⟩ := Option.map_eq_some_iff.mp hwatch
    exact ⟨c.labelPollInterval, (NodeConfig.validate_eq_ok_iff.mp h).labelPollInterval, rfl⟩

/-- **Which configurations that are not refused break down**: those that search for the coordinator with a
window that ends behind the end of time.  All other times are told exactly, with any configuration. -/
theorem breaks_down_iff_window_too_wide (c : NodeConfig) (hc : c.validate = .ok ()) :
    (∀ now, c.BreaksDown now ↔
      (c.url = none ∨ c.broadcast = true) ∧ endOfTime ≤ now + 1000 * c.discoveryWindow.toNat) ∧
    c.KeepsTime := by
  constructor
  · intro now
    exact c.breaksDown_iff hc now
  · exact keepsTime_of_validate hc

/-- With nothing set, the agent searches for five seconds.  It does not break down as long as the clock
shows less than 2^63 - 5 seconds, and not even a randomised wait is longer than a minute. -/
theorem breaks_down_iff_window_too_wide_of_standard :
    let c : NodeConfig := NodeConfig.standard ⟨"builder", 1, "/", 33848⟩
    c.validate = .ok () ∧ (∀ now, c.BreaksDown now ↔ endOfTime ≤ now + 5000) ∧
      ∀ (registration : Registration) (argv : List String) (source : Words) (words : source.State)
        (events : List SupervisorEvent) (wait : UInt64),
        .sleep wait ∈ (start words).2 ++
            (run (c.supervision registration argv) (start words).1 events).2 → wait ≤ 60 := by
  intro c
  have hc : c.validate = .ok () := by decide +kernel
  obtain ⟨hbreaks, hkeeps⟩ := breaks_down_iff_window_too_wide c hc
  refine ⟨hc, ?_, hkeeps.sleeps⟩
  intro now
  rw [hbreaks now]
  exact and_iff_right (.inl rfl)

/-- **A window that is too wide is not refused**, and the search breaks down once the clock shows a
second. -/
theorem wide_window_breaks_down :
    ∃ c, readConfig ⟨"builder", 1, "/", 33848⟩ "discovery_window = 9223372036854775807" = .ok c ∧
      c.validate = .ok () ∧ c.BreaksDown 1000 := by
  let wide : NodeConfig :=
    { NodeConfig.standard ⟨"builder", 1, "/", 33848⟩ with discoveryWindow := 9223372036854775807 }
  have hread : (readConfig ⟨"builder", 1, "/", 33848⟩
      "discovery_window = 9223372036854775807").toOption = some wide := by
    decide +kernel
  have hvalid : wide.validate = .ok () := by decide +kernel
  refine ⟨wide, ?_, hvalid, (wide.breaksDown_iff hvalid 1000).mpr ⟨.inl rfl, by decide +kernel⟩⟩
  cases hresult : readConfig ⟨"builder", 1, "/", 33848⟩ "discovery_window = 9223372036854775807" with
  | error cause =>
    rw [hresult] at hread
    cases hread
  | ok c =>
    rw [hresult] at hread
    obtain rfl := Option.some.inj hread
    rfl

end NodeAgent
