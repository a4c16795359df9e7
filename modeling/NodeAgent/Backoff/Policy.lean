import NodeAgent.Text.LowerCase

/-!
# How long to wait before the next attempt

After a failed attempt the agent waits.  The wait grows with the number of failures as a policy says,
and never beyond a bound.  Waits are whole seconds of 64 bits; a product that would not fit is as
good as infinite.

## Main definitions

* `BackoffPolicy`: how the wait grows.
* `BackoffConfig`: a policy with its base interval and its bound.
* `waitFor`: the wait after a number of failures.
-/

namespace NodeAgent

/-- **How the wait grows** from failure to failure. -/
inductive BackoffPolicy
  /-- It stays the same. -/
  | none
  /-- It grows by one interval. -/
  | linear
  /-- It doubles. -/
  | exponential
deriving DecidableEq, Repr, Inhabited

namespace BackoffPolicy

/-- The name of a policy. -/
def name : BackoffPolicy → String
  | none => "none"
  | linear => "linear"
  | exponential => "exponential"

/-- The policy of a name. -/
def ofName? : String → Option BackoffPolicy
  | "none" => some none
  | "linear" => some linear
  | "exponential" => some exponential
  | _ => Option.none

/-- Reads a policy; ASCII letters count in either case. -/
def parse (text : String) : Except String BackoffPolicy :=
  let lowered := Text.toLowerAscii text
  match ofName? lowered with
  | some policy => .ok policy
  | Option.none =>
    .error ("unknown back-off policy '" ++ lowered ++ "' (expected none, linear or exponential)")

end BackoffPolicy

/-- **How to back off** between attempts.  Intervals are in seconds. -/
structure BackoffConfig where
  policy : BackoffPolicy := .none
  /-- The wait after the first failure. -/
  interval : UInt64 := 10
  /-- No wait is longer. -/
  maxInterval : UInt64 := 60
  /-- Whether each wait is replaced by a random shorter one. -/
  jitter : Bool := false
deriving DecidableEq, Repr, Inhabited

/-- The number of seconds as 64 bits; more than fits is the greatest number that does. -/
def saturate (n : Nat) : UInt64 :=
  if n < UInt64.size then n.toUInt64 else (UInt64.size - 1).toUInt64

/-- By how much the interval is multiplied after a number of failures. -/
def BackoffPolicy.factor (attempt : UInt32) : BackoffPolicy → Nat
  | .none => 1
  | .linear => attempt.toNat + 1
  | .exponential => if attempt.toNat < 64 then 1 <<< attempt.toNat else UInt64.size - 1

/-- **The wait after `attempt` earlier failures.** -/
def waitFor (policy : BackoffPolicy) (attempt : UInt32) (interval maxInterval : UInt64) : UInt64 :=
  min (saturate (interval.toNat * policy.factor attempt)) maxInterval

end NodeAgent
