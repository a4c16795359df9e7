import NodeAgent.Config.Node
import NodeAgent.Discovery.Window

/-!
# Finding a coordinator by broadcast

A datagram goes out to everybody who listens at an address, and answers are collected for a while.  One
of the coordinators that answered is chosen at random, so that nodes spread over them.  Time is in
milliseconds.

## Main definitions

* `Broadcast`: where to, how long, and for which coordinator.
* `deadline?`: the end of a window, as far as a clock can tell.
* `Broadcast.discover`: the candidate that a broadcast leads to.
-/

namespace NodeAgent

/-- **A broadcast.** -/
structure Broadcast where
  address : String
  port : UInt16
  /-- How long answers are collected. -/
  window : Nat
  /-- The address of the coordinator, if only its secret is wanted. -/
  pinned : Option Url := none
deriving DecidableEq, Repr, Inhabited

/-- The broadcast of a discovery, unless the coordinator is asked directly. -/
def DiscoveryMode.broadcast? : DiscoveryMode → Option Broadcast
  | .direct _ => none
  | .broadcast address port window pinned => some ⟨address, port, 1000 * window.toNat, pinned⟩

/-- The first moment that a clock with a signed number of 64 bits for the seconds cannot tell. -/
def endOfTime : Nat :=
  1000 * (1 <<< 63)

/-- **The end of a window**; `none` if the clock cannot tell it. -/
def deadline? (now window : Nat) : Option Nat :=
  if now + window < endOfTime then some (now + window) else none

namespace Broadcast

/-- Where a broadcast goes to. -/
def target (b : Broadcast) : String :=
  b.address ++ ":" ++ toString b.port.toNat

/-- **The candidate that a broadcast leads to**, given whether the datagram could be sent and what is
read after it.  There is no result when the window has no end that a clock can tell: the agent breaks
down. -/
def discover (b : Broadcast) (now : Nat) (network : Except SystemError (List Arrival))
    (source : Words) (words : source.State) : Option (Except ProtocolError Candidate) :=
  match network with
  | .error cause => some (.error (.io cause))
  | .ok arrivals =>
    (deadline? now b.window).map fun deadline =>
      (collect b.pinned deadline arrivals { clock := now }).outcome b.target source words

end Broadcast

end NodeAgent
