import NodeAgent.Discovery.Direct
import NodeAgent.Startup.Basic

/-!
# Starting without a network

On a machine without a network a start depends on files only.  Which files matter can be told in two
steps: the command line names the configuration, and the configuration names the others.  No request is
answered and no datagram can be sent, so that a coordinator is never found.

## Main definitions

* `Startup.configPaths`: the configuration.
* `Startup.workPaths`: the files that the configuration names.
* `Startup.rivals`: the process that may hold the pid file.
* `offline`: the result of a dialogue with servers that do not answer.
* `Plan.discoverOffline`: what comes of looking for the coordinator.
-/

namespace NodeAgent

/-! ## Files -/

namespace Startup

/-- **The path of the configuration**, if the command line leads to a run. -/
def configPaths (s : Startup) : List String :=
  match parseArguments s.password (s.argv.drop 1) with
  | .ok a => [a.configFile.getD (configPath s.user)]
  | .error _ => []

/-- The configuration of the run that the command line leads to. -/
def config? (s : Startup) (t : FileTree) : Option NodeConfig :=
  match parseArguments s.password (s.argv.drop 1) with
  | .ok a => (s.config t a).toOption
  | .error _ => none

/-- **The paths that the configuration names.** -/
def workPaths (s : Startup) (t : FileTree) : List String :=
  match s.config? t with
  | some c => c.fsRoot :: c.pidFile.toList
  | none => []

/-- **The process that the pid file names**, if it names one. -/
def rivals (s : Startup) (t : FileTree) : List Nat :=
  match (s.config? t).bind (·.pidFile) with
  | some path =>
    match readPidFile t path with
    | .ok (some id) => [id.toNat]
    | _ => []
  | none => []

end Startup

/-! ## Servers -/

/-- **The result of a dialogue with servers** when there is no connection to any. -/
def offline {α : Type} (d : HttpDialogue α) : α :=
  Id.run (d.onWire.holdWith fun _ => pure (.error .noConnection))

/-- The failure to send a datagram. -/
def noSocket : SystemError := ⟨.permissionDenied, .plain⟩

/-- **What comes of looking for the coordinator** without a network. -/
def Plan.discoverOffline (plan : Plan) : Except ProtocolError Candidate :=
  match plan.discovery with
  | .direct url => offline (plan.client.discover url).run
  | .broadcast .. => .error (.io noSocket)

end NodeAgent
