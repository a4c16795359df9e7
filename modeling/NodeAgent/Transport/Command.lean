import NodeAgent.Coordinator.Candidate
import NodeAgent.Error.Agent

/-!
# The transport program

The channel to the coordinator lives in a program of its own.  It is started once for each connection,
finds the coordinator in its environment, and its end is the end of the connection.

## Main definitions

* `TransportCommand`: the program and its arguments.
* `Launch`: a process that is to be started, and `TransportCommand.launch`, the one of a connection.
* `connectionResult`: what the end of the process says about the connection.
-/

namespace NodeAgent

/-- **The program that keeps a connection.** -/
structure TransportCommand where
  program : String
  arguments : List String
deriving DecidableEq, Repr, Inhabited

/-- The command of a list of words; an empty list is none. -/
def TransportCommand.ofList? : List String → Option TransportCommand
  | [] => none
  | program :: arguments => some ⟨program, arguments⟩

/-- **A process that is to be started.** -/
structure Launch where
  program : String
  arguments : List String
  /-- The variables that are set for it. -/
  environment : List (String × String) := []
deriving DecidableEq, Repr, Inhabited

/-- The variables that tell a transport program where to connect. -/
def Candidate.environment (c : Candidate) (nodeName : String) : List (String × String) :=
  [("SWARM_URL", c.url.text), ("SWARM_SECRET", c.secret), ("SWARM_NODE_NAME", nodeName)]

/-- **The process of a connection.** -/
def TransportCommand.launch (command : TransportCommand) (c : Candidate) (nodeName : String) :
    Launch where
  program := command.program
  arguments := command.arguments
  environment := c.environment nodeName

/-- Whether everything about a process can be handed over: no text holds the character that ends texts. -/
def Launch.isClean (launch : Launch) : Bool :=
  (launch.program :: launch.arguments ++ launch.environment.map (·.2)).all fun text =>
    !text.toList.contains '\x00'

/-- **How a process ends.** -/
inductive ProcessEnd
  | exited (status : UInt8)
  | signaled
deriving DecidableEq, Repr, Inhabited

/-- **What the end of the process says about the connection.** -/
def connectionResult : Except SystemError ProcessEnd → Except TransportError Unit
  | .error cause => .error (.spawn cause)
  | .ok .signaled => .error .signaled
  | .ok (.exited status) => if status = 0 then .ok () else .error (.exitStatus status.toNat)

end NodeAgent
