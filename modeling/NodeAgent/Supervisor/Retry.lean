import NodeAgent.Backoff.Schedule
import NodeAgent.Coordinator.Registration
import NodeAgent.Error.Agent

/-!
# After an attempt

An attempt to keep the node connected ends in one of a few ways.  What follows is decided here and
nowhere else: the run is over, or another attempt is made after a wait.  Every end of an attempt that
does not end the run uses up one attempt of the budget.

## Main definitions

* `SupervisorSettings`: what a run is about.
* `AttemptResult`, `Ending`: how an attempt ends, and how a run ends.
* `Progress.decide`: what follows an attempt.
-/

namespace NodeAgent

/-- **What a watch is about.** -/
structure WatchSettings where
  /-- The label file. -/
  path : String
  /-- The milliseconds between two looks at it. -/
  pollInterval : Nat
  /-- The labels that stay on the node whatever the file holds. -/
  staticLabels : LabelSet
  /-- The command line with which the node restarts. -/
  argv : List String
deriving DecidableEq

/-- **What a run is about.** -/
structure SupervisorSettings where
  registration : Registration
  /-- Whether to check that a coordinator is one before the node is registered. -/
  verify : Bool
  /-- The number of attempts, unless there is no limit. -/
  retryBudget : Option UInt32 := none
  backoff : BackoffConfig := {}
  /-- Whether the first connection that ends by itself is the last one. -/
  noRetryAfterConnected : Bool := false
  labelWatch : Option WatchSettings := none
deriving DecidableEq

/-- **How an attempt ends.** -/
inductive AttemptResult
  /-- The connection ended by itself. -/
  | closed
  /-- The labels were half changed, and a fresh process takes over. -/
  | restarted
  /-- The labels were half changed, and there is no fresh process. -/
  | restartFailed (cause : SystemError)
  /-- A step of the attempt failed. -/
  | failed (cause : AgentError)
deriving DecidableEq, Repr

/-- **How a run ends** without an error. -/
inductive Ending
  | disconnected
  | retriesExhausted
  | restarted
deriving DecidableEq, Repr, Inhabited

/-- The exit status of the agent at the end of a run. -/
def Ending.exitCode : Ending → Nat
  | disconnected => 0
  | retriesExhausted => 1
  | restarted => 0

/-- **What follows an attempt.** -/
inductive Decision
  /-- The run is over. -/
  | finish (outcome : Except AgentError Ending)
  /-- Another attempt follows after some seconds; so many are left, if there is a limit. -/
  | again (wait : UInt64) (left : Option UInt32)
deriving Repr

/-- **How far a run has come**: the failures so far, and the random words that are left. -/
structure Progress (source : Words) where
  retry : RetryState := {}
  words : source.State

namespace Progress

variable {source : Words}

/-- One more failure. -/
def fail (p : Progress source) (config : BackoffConfig) : Progress source :=
  let (retry, words) := p.retry.nextWaitJittered source config p.words
  ⟨retry, words⟩

/-- What follows a failure that was counted: another attempt if the budget is not used up. -/
def tryAgain (p : Progress source) : Option UInt32 → Decision
  | none => .again p.retry.lastWait none
  | some budget =>
    if budget ≤ p.retry.attempts then .finish (.ok .retriesExhausted)
    else .again p.retry.lastWait (some (budget - p.retry.attempts))

/-- Counts a failure and tries again. -/
def retryAfter (p : Progress source) (s : SupervisorSettings) : Decision × Progress source :=
  let p := p.fail s.backoff
  (p.tryAgain s.retryBudget, p)

/-- **What follows an attempt.** -/
def decide (p : Progress source) (s : SupervisorSettings) :
    AttemptResult → Decision × Progress source
  | .restarted => (.finish (.ok .restarted), p)
  | .closed =>
    if s.noRetryAfterConnected then (.finish (.ok .disconnected), p) else p.retryAfter s
  | .restartFailed _ => p.retryAfter s
  | .failed cause => if cause.isRetryable then p.retryAfter s else (.finish (.error cause), p)

end Progress

end NodeAgent
