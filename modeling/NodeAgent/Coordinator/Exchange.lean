import NodeAgent.Coordinator.Candidate
import NodeAgent.Http.Client

/-!
# Exchanges with the coordinator

An exchange is a dialogue with the coordinator that may fail.  What it asks for lies beneath the address
of the coordinator, at places that are the same for every coordinator.

## Main definitions

* `Exchange`: a dialogue with the coordinator.
* `Endpoint`: the places beneath the address of a coordinator.
* `Endpoint.on`: the address of a place.
-/

namespace NodeAgent

/-- **A dialogue with the coordinator** that may fail. -/
abbrev Exchange := ExceptT ProtocolError HttpDialogue

namespace Exchange

/-- The exchange that fails. -/
def fail {α : Type} (cause : ProtocolError) : Exchange α :=
  ExceptT.mk (.done (.error cause))

/-- A result that is there already. -/
def ofExcept {α : Type} : Except ProtocolError α → Exchange α
  | .ok a => pure a
  | .error cause => fail cause

/-- Sends a request. -/
def send (request : Request) : Exchange Response :=
  ExceptT.mk do return (← Dialogue.question request).mapError .http

/-- The body of a response. -/
def body (response : Response) : Exchange String :=
  ofExcept (response.text.mapError .http)

end Exchange

/-- **The places beneath the address of a coordinator.** -/
inductive Endpoint
  | status
  | crumb
  | createNode
  | getLabels
  | addLabels
  | removeLabels
deriving DecidableEq, Repr, Inhabited

namespace Endpoint

/-- The path of a place, relative to the address of the coordinator. -/
def path : Endpoint → String
  | status => "plugin/swarm/slaveInfo"
  | crumb => "crumbIssuer/api/xml"
  | createNode => "plugin/swarm/createSlave"
  | getLabels => "plugin/swarm/getSlaveLabels"
  | addLabels => "plugin/swarm/addSlaveLabels"
  | removeLabels => "plugin/swarm/removeSlaveLabels"

/-- **The address of a place.** -/
def on (base : Url) (e : Endpoint) : Except ProtocolError Url :=
  (base.join e.path).mapError fun cause =>
    .malformed .address ("cannot join " ++ e.path ++ " onto " ++ base.text ++ ": " ++ cause.message)

end Endpoint

end NodeAgent
