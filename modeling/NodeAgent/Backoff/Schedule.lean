import NodeAgent.Backoff.Policy
import NodeAgent.Backoff.Uniform

/-!
# The schedule of attempts

The schedule counts failed attempts and hands out the wait after each.  A wait is computed from the
failures *before* the one at hand, so that the first failure waits one interval.

## Main definitions

* `RetryState`: the failures so far and the last wait.
* `RetryState.nextWait`: the state after one more failure.
* `RetryState.drawWait`, `RetryState.nextWaitJittered`: the same when waits are randomised.
-/

namespace NodeAgent

/-- **What a schedule keeps**: the failures so far, which stop counting at the greatest number of 32
bits, and the last wait in seconds. -/
structure RetryState where
  attempts : UInt32 := 0
  lastWait : UInt64 := 0
deriving DecidableEq, Repr, Inhabited

namespace RetryState

/-- One more failure. -/
def countUp (n : UInt32) : UInt32 :=
  if n.toNat + 1 = UInt32.size then n else n + 1

/-- The longest wait that the next failure can get. -/
def topWait (config : BackoffConfig) (state : RetryState) : UInt64 :=
  waitFor config.policy state.attempts config.interval config.maxInterval

/-- **The state after one more failure.**  Its wait is the one to keep. -/
def nextWait (config : BackoffConfig) (state : RetryState) : RetryState :=
  ⟨countUp state.attempts, topWait config state⟩

/-- **The wait after one more failure**, which is drawn at random if the configuration says so. -/
def drawWait (source : Words) (config : BackoffConfig) (state : RetryState) (words : source.State) :
    UInt64 × source.State :=
  if config.jitter then source.upTo (topWait config state) words else (topWait config state, words)

/-- **The state after one more failure** whose wait is drawn.  The wait that is handed out is the one
to keep. -/
def nextWaitJittered (source : Words) (config : BackoffConfig) (state : RetryState)
    (words : source.State) : RetryState × source.State :=
  let (wait, words) := state.drawWait source config words
  (⟨countUp state.attempts, wait⟩, words)

end RetryState

end NodeAgent
