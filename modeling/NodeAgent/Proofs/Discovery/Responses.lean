import Mathlib.Data.List.DropRight
import NodeAgent.Proofs.Discovery.Window

/-!
# What was heard is what is collected

A step of listening hears something if a read ends with it before the window does.  All that is heard is
what the source has to say, from its beginning and without gaps.  Every response that is heard is counted,
and it is read from its own bytes although all responses share one buffer.  The count of failures is the
number of failures at the end of what was heard, so that it starts anew with every response.

## Main definitions

* `Received.payload?`, `payloads`, `announced`: the bytes of the responses, and what they announce.
* `failuresAtEnd`: the failures since the last response.
* `Listening.hears?`, `Listening.heard`: what a step hears, and what so many steps hear.
* `Listening.Accounts`: what was collected accounts for all that was heard.
* `Listening.HearsUntilEnd`: what is heard until listening ends.

## Main results

* `turn_cases`: what a read comes to.
* `accounts_step`: a step accounts for what it hears.
* `accounts_heard`, `accounts_collect`: so does every number of steps, and the end of listening.
* `collected_is_what_was_heard`: what is collected accounts for all that was heard.
-/

namespace NodeAgent

/-- The bytes of a response; a failed read has none. -/
def Received.payload? : Received → Option Bytes
  | .datagram payload => some payload
  | .failure _ => none

/-- The responses among what was heard, in order. -/
def payloads (heard : List Received) : List Bytes :=
  heard.filterMap Received.payload?

/-- The failures since the last response. -/
def failuresAtEnd (heard : List Received) : List Received :=
  heard.rtakeWhile (·.payload?.isNone)

/-- What the responses announce that are of use, in order. -/
def announced (pinned : Option Url) (payloads : List Bytes) : List Candidate :=
  payloads.filterMap fun payload => (Candidate.ofResponse pinned (payload.take responseLimit)).toOption

namespace Listening

/-- Whether no more is read. -/
def hasEnded : Listening → Bool
  | ended _ => true
  | _ => false

/-- **What a step hears.**  Only a read that starts within the window and ends within it hears
something. -/
def hears? (deadline : Nat) (source : Nat → Option Arrival) : Listening → Option Received
  | turning c =>
    if deadline ≤ c.clock then none
    else ((source c.reads).filter (·.after ≤ deadline - c.clock)).map (·.what)
  | _ => none

/-- **What so many steps hear**, in order. -/
def heard (pinned : Option Url) (deadline : Nat) (source : Nat → Option Arrival) (start : Listening)
    (n : Nat) : List Received :=
  (List.range n).filterMap fun i => hears? deadline source ((step pinned deadline source)^[i] start)

/-- **What was collected accounts for all that was heard.** -/
structure Accounts (pinned : Option Url) (deadline : Nat) (source : Nat → Option Arrival)
    (heard : List Received) (r : Listening) : Prop where
  /-- All that was heard comes from the source, from its beginning and without gaps. -/
  inOrder : heard.map some = (List.range heard.length).map fun i => (source i).map (·.what)
  /-- Every response is counted. -/
  responses : r.collection.responses = (payloads heard).length
  /-- Every response of use is kept, read from its own bytes. -/
  candidates : r.collection.candidates = announced pinned (payloads heard)
  /-- Failures are counted from the last response on. -/
  failures : r.collection.failures = (failuresAtEnd heard).length
  /-- As long as the failures are few, the next read is for what the source has to say next. -/
  goesOn : r.hasEnded = false →
    r.collection.reads = heard.length ∧ r.collection.failures < failureLimit
  /-- It ends with the window, or with too many failures in a row. -/
  ends : r.hasEnded = true → deadline ≤ r.clock ∨ r.collection.failures = failureLimit

variable {pinned : Option Url} {deadline : Nat} {source : Nat → Option Arrival} {c : Collection}
  {said : List Received} {r : Listening}

/-! ## What a read comes to -/

/-- **What a turn comes to**: nothing is heard until the window is over, or a response, or a failure. -/
theorem turn_cases (pinned : Option Url) (deadline : Nat) (source : Nat → Option Arrival)
    (c : Collection) :
    (hears? deadline source (turning c) = none ∧
      ∃ clock reads, deadline ≤ clock ∧
        step pinned deadline source (turning c) = ended { c with clock, reads }) ∨
    ∃ received clock, hears? deadline source (turning c) = some received ∧
      (source c.reads).map (·.what) = some received ∧
      ((∃ payload, received = .datagram payload ∧ step pinned deadline source (turning c) =
        turning ({ c with clock, reads := c.reads + 1 }.receive pinned payload)) ∨
      ∃ cause, received = .failure cause ∧ step pinned deadline source (turning c) =
        if failureLimit ≤ c.failures + 1 then
          ended { c with clock, reads := c.reads + 1, failures := c.failures + 1 }
        else
          pausing { c with clock, reads := c.reads + 1, failures := c.failures + 1 }
            (deadline - c.clock)) := by
  by_cases hover : deadline ≤ c.clock
  · exact .inl ⟨if_pos hover, c.clock, c.reads, hover, if_pos hover⟩
  have hhears : hears? deadline source (turning c) = _ := if_neg hover
  have hstep : step pinned deadline source (turning c) =
      read pinned deadline c (source c.reads) := if_neg hover
  cases harrival : source c.reads with
  | none =>
    rw [harrival] at hhears hstep
    exact .inl ⟨hhears, deadline, c.reads + 1, Nat.le_refl _, hstep⟩
  | some arrival =>
    rw [harrival] at hhears hstep
    by_cases hlate : deadline - c.clock < arrival.after
    · rw [Option.filter_some_neg (by simpa using hlate)] at hhears
      exact .inl ⟨hhears, deadline, c.reads + 1, Nat.le_refl _, hstep.trans (if_pos hlate)⟩
    · rw [Option.filter_some_pos (by simpa using hlate)] at hhears
      rw [read, if_neg hlate] at hstep
      refine .inr ⟨arrival.what, c.clock + arrival.after, hhears, rfl, ?_⟩
      cases hwhat : arrival.what with
      | datagram payload =>
        rw [hwhat] at hstep
        exact .inl ⟨payload, rfl, hstep⟩
      | failure cause =>
        rw [hwhat] at hstep
        exact .inr ⟨cause, rfl, hstep⟩

/-! ## What was heard grows -/

theorem payloads_concat (said : List Received) (received : Received) :
    payloads (said ++ [received]) = payloads said ++ received.payload?.toList := by
  rw [payloads, List.filterMap_append]
  cases received <;> rfl

theorem announced_append (pinned : Option Url) (before after : List Bytes) :
    announced pinned (before ++ after) = announced pinned before ++ announced pinned after :=
  List.filterMap_append

/-- Nothing heard changes nothing but the clock and the reads that were started. -/
theorem Accounts.of_quiet (h : Accounts pinned deadline source said (turning c)) {clock reads : Nat}
    (hover : deadline ≤ clock) :
    Accounts pinned deadline source said (ended { c with clock, reads }) where
  inOrder := h.inOrder
  responses := h.responses
  candidates := h.candidates
  failures := h.failures
  goesOn := nofun
  ends _ := .inl hover

/-- What is heard next is what the source has to say next. -/
theorem Accounts.inOrder_concat (h : Accounts pinned deadline source said (turning c))
    {received : Received} (hnext : (source c.reads).map (·.what) = some received) :
    (said ++ [received]).map some =
      (List.range (said ++ [received]).length).map fun i => (source i).map (·.what) := by
  obtain ⟨hreads, -⟩ : c.reads = said.length ∧ _ := h.goesOn rfl
  rw [List.map_append, List.length_append, List.length_singleton, List.range_succ, List.map_append,
    h.inOrder, ← hreads, List.map_singleton, List.map_singleton, hnext]

/-- A response is counted, and kept if it is of use. -/
theorem Accounts.of_datagram (h : Accounts pinned deadline source said (turning c)) {clock : Nat}
    {payload : Bytes} (hnext : (source c.reads).map (·.what) = some (.datagram payload)) :
    Accounts pinned deadline source (said ++ [.datagram payload])
      (turning ({ c with clock, reads := c.reads + 1 }.receive pinned payload)) where
  inOrder := h.inOrder_concat hnext
  responses := by
    have hcount : c.responses = (payloads said).length := h.responses
    rw [payloads_concat, List.length_append, ← hcount]
    rfl
  candidates := by
    have hkept : c.candidates = announced pinned (payloads said) := h.candidates
    rw [payloads_concat, announced_append, ← hkept]
    refine (Collection.candidates_receive _ _ _).trans ?_
    cases hresponse : Candidate.ofResponse pinned (payload.take responseLimit) with
    | ok candidate => simp [announced, Received.payload?, hresponse, Except.toOption]
    | error cause => simp [announced, Received.payload?, hresponse, Except.toOption]
  failures := by
    rw [failuresAtEnd, List.rtakeWhile_concat_neg _ _ _ (by simp [Received.payload?])]
    rfl
  goesOn _ := by
    obtain ⟨hreads, -⟩ : c.reads = said.length ∧ _ := h.goesOn rfl
    refine ⟨?_, Nat.zero_lt_succ 4⟩
    rw [List.length_append, ← hreads]
    rfl
  ends := nofun

/-- A failure is one more at the end of what was heard. -/
theorem Accounts.of_failure (h : Accounts pinned deadline source said (turning c)) {clock : Nat}
    {cause : SystemError} (hnext : (source c.reads).map (·.what) = some (.failure cause)) :
    Accounts pinned deadline source (said ++ [.failure cause])
      (if failureLimit ≤ c.failures + 1 then
        ended { c with clock, reads := c.reads + 1, failures := c.failures + 1 }
      else
        pausing { c with clock, reads := c.reads + 1, failures := c.failures + 1 }
          (deadline - c.clock)) := by
  obtain ⟨hreads, hfew⟩ : c.reads = said.length ∧ c.failures < failureLimit := h.goesOn rfl
  have hpayloads : payloads (said ++ [.failure cause]) = payloads said := by
    rw [payloads_concat]
    exact List.append_nil _
  have hfailures : c.failures + 1 = (failuresAtEnd (said ++ [.failure cause])).length := by
    have hcount : c.failures = (failuresAtEnd said).length := h.failures
    rw [failuresAtEnd, List.rtakeWhile_concat_pos _ _ _ rfl, List.length_append, hcount]
    rfl
  have hlength : c.reads + 1 = (said ++ [Received.failure cause]).length := by
    rw [List.length_append, hreads]
    rfl
  split
  · next hmany =>
    refine ⟨h.inOrder_concat hnext, hpayloads ▸ h.responses, hpayloads ▸ h.candidates, hfailures,
      nofun, fun _ => .inr ?_⟩
    exact Nat.le_antisymm hfew hmany
  · next hstill =>
    exact ⟨h.inOrder_concat hnext, hpayloads ▸ h.responses, hpayloads ▸ h.candidates, hfailures,
      fun _ => ⟨hlength, Nat.lt_of_not_le hstill⟩, nofun⟩

/-- **A step accounts for what it hears.** -/
theorem accounts_step (h : Accounts pinned deadline source said r) :
    Accounts pinned deadline source (said ++ (hears? deadline source r).toList)
      (step pinned deadline source r) := by
  cases r with
  | turning c =>
    rcases turn_cases pinned deadline source c with
      ⟨hquiet, clock, reads, hover, hstep⟩ | ⟨received, clock, hhears, hnext, hread⟩
    · rw [hquiet, hstep, Option.toList_none, List.append_nil]
      exact h.of_quiet hover
    · rw [hhears, Option.toList_some]
      rcases hread with ⟨payload, rfl, hstep⟩ | ⟨cause, rfl, hstep⟩
      · rw [hstep]
        exact h.of_datagram hnext
      · rw [hstep]
        exact h.of_failure hnext
  -- During a pause and behind the end nothing is heard.
  | pausing c remaining =>
    refine (List.append_nil said).symm ▸ ?_
    exact ⟨h.inOrder, h.responses, h.candidates, h.failures, h.goesOn, nofun⟩
  | ended c => exact (List.append_nil said).symm ▸ h

/-! ## What was heard altogether -/

theorem heard_succ (start : Listening) (n : Nat) :
    heard pinned deadline source start (n + 1) = heard pinned deadline source start n ++
      (hears? deadline source ((step pinned deadline source)^[n] start)).toList := by
  rw [heard, List.range_succ, List.filterMap_append, ← heard]
  cases hhears : hears? deadline source ((step pinned deadline source)^[n] start) with
  | none => simp [hhears]
  | some received => simp [hhears]

/-- **Every number of steps accounts for what it hears.** -/
theorem accounts_heard (pinned : Option Url) (deadline : Nat) (source : Nat → Option Arrival)
    (now : Nat) (buffer : ReadBuffer) (n : Nat) :
    Accounts pinned deadline source
      (heard pinned deadline source (turning { clock := now, buffer }) n)
      ((step pinned deadline source)^[n] (turning { clock := now, buffer })) := by
  induction n with
  | zero => exact ⟨rfl, rfl, rfl, rfl, fun _ => ⟨rfl, Nat.zero_lt_succ 4⟩, nofun⟩
  | succ n ih =>
    rw [heard_succ, Function.iterate_succ_apply']
    exact accounts_step ih

/-- Behind the end nothing changes, and nothing is heard. -/
theorem iterate_of_hasEnded {start : Listening} {n : Nat}
    (h : ((step pinned deadline source)^[n] start).hasEnded = true) (more : Nat) :
    (step pinned deadline source)^[n + more] start = (step pinned deadline source)^[n] start ∧
      heard pinned deadline source start (n + more) = heard pinned deadline source start n := by
  cases hend : (step pinned deadline source)^[n] start with
  | turning c => rw [hend] at h; cases h
  | pausing c remaining => rw [hend] at h; cases h
  | ended c =>
    induction more with
    | zero => exact ⟨hend, rfl⟩
    | succ more ih =>
      obtain ⟨hstate, hheard⟩ := ih
      rw [← Nat.add_assoc, Function.iterate_succ_apply', heard_succ, hstate, hheard]
      exact ⟨rfl, List.append_nil _⟩

/-- **All that is heard until listening ends.** -/
def HearsUntilEnd (pinned : Option Url) (deadline : Nat) (source : Nat → Option Arrival)
    (start : Listening) (all : List Received) : Prop :=
  ∃ n, ((step pinned deadline source)^[n] start).hasEnded = true ∧
    all = heard pinned deadline source start n

/-- It is the same however long one waits for more. -/
theorem HearsUntilEnd.unique {start : Listening} {all other : List Received}
    (h : HearsUntilEnd pinned deadline source start all)
    (ho : HearsUntilEnd pinned deadline source start other) : other = all := by
  obtain ⟨n, hend, rfl⟩ := h
  obtain ⟨m, hend', rfl⟩ := ho
  rw [← (iterate_of_hasEnded hend' n).2, ← (iterate_of_hasEnded hend m).2, Nat.add_comm]

/-- **What is collected from finitely many arrivals** accounts for all that is heard. -/
theorem accounts_collect (pinned : Option Url) (now deadline : Nat) (buffer : ReadBuffer)
    (arrivals : List Arrival) :
    ∃ all, HearsUntilEnd pinned deadline (fun i => arrivals[i]?)
        (turning { clock := now, buffer }) all ∧
      Accounts pinned deadline (fun i => arrivals[i]?) all
        (ended (collect pinned deadline arrivals { clock := now, buffer })) := by
  have hsteps : ∃ n, (step pinned deadline (fun i => arrivals[i]?))^[n]
      (turning { clock := now, buffer }) =
        ended (collect pinned deadline arrivals { clock := now, buffer }) := by
    apply exists_iterate_eq_collect
    intro i
    simp
  obtain ⟨n, hn⟩ := hsteps
  have haccounts := accounts_heard pinned deadline (fun i => arrivals[i]?) now buffer n
  rw [hn] at haccounts
  exact ⟨_, ⟨n, by rw [hn]; rfl, rfl⟩, haccounts⟩

/-- **What is collected accounts for all that was heard**, after every number of steps, whatever the
buffer holds at first and whether or not the source ever ends.  When finitely many arrivals come, what
is collected in the end accounts for all that is heard until listening ends. -/
theorem collected_is_what_was_heard (pinned : Option Url) (now deadline : Nat) (buffer : ReadBuffer) :
    (∀ (source : Nat → Option Arrival) (n : Nat),
      Accounts pinned deadline source
        (heard pinned deadline source (turning { clock := now, buffer }) n)
        ((step pinned deadline source)^[n] (turning { clock := now, buffer }))) ∧
    ∀ arrivals : List Arrival, ∃ all,
      HearsUntilEnd pinned deadline (fun i => arrivals[i]?) (turning { clock := now, buffer }) all ∧
      Accounts pinned deadline (fun i => arrivals[i]?) all
        (ended (collect pinned deadline arrivals { clock := now, buffer })) :=
  ⟨fun source n => accounts_heard pinned deadline source now buffer n,
    accounts_collect pinned now deadline buffer⟩

/-- Four failures before a response of no use and four behind it do not end listening. -/
example :
    let failure : Arrival := ⟨0, .failure ⟨.connectionRefused, .plain⟩⟩
    let useless : Arrival := ⟨10, .datagram []⟩
    let c := collect none 1000 (List.replicate 4 failure ++ useless :: List.replicate 4 failure) {}
    c.responses = 1 ∧ c.candidates = [] ∧ c.failures = 4 ∧ c.clock = 1000 := by
  decide +kernel

end Listening

end NodeAgent
