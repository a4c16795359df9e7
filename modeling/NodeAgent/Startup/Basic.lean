import NodeAgent.CommandLine.LogFilter
import NodeAgent.CommandLine.Options
import NodeAgent.CommandLine.Parser
import NodeAgent.Config.File
import NodeAgent.Error.Report
import NodeAgent.Files.PidFile
import NodeAgent.Identity.Machine
import NodeAgent.Startup.Plan
import NodeAgent.Supervisor.Retry

/-!
# From the command line to a plan

The agent starts with a command line, variables and files.  It reads the command line, loads the
configuration, claims its pid file and makes a plan; or it ends with a report of what is wrong.  Only
an agent with a plan keeps its pid file.  However the agent ends, it leaves an exit status and some lines.

## Main definitions

* `Exit`: the exit status and what is printed.
* `Exit.ofStop`, `Exit.ofReport`, `Exit.ofRun`: the exits of the agent.
* `Startup`: what the agent finds when it starts.
* `Startup.config`: the configuration of a run.
* `Startup.prepare`: claiming the pid file and making a plan.
* `Startup.begin`: the plan, or the exit of an agent that does not get that far.
-/

namespace NodeAgent

/-! ## The end of the agent -/

/-- **The exit status of the agent and the lines that it prints**, as output and as messages. -/
structure Exit where
  status : UInt8
  output : List String := []
  messages : List String := []
deriving DecidableEq, Repr, Inhabited

namespace Exit

/-- **The exit of a command line that leads to no run.** -/
def ofStop : Stop → Exit
  | .help => { status := 0, output := helpLines }
  | .version => { status := 0, output := [versionLine] }
  | .usage error => { status := 2, messages := textLines ("error: " ++ error.message) }

/-- **The exit with a report.** -/
def ofReport (r : Report) : Exit :=
  { status := 1, messages := r.lines }

/-- **The exit after a run.** -/
def ofRun : Except AgentError Ending → Exit
  | .ok ending => { status := ending.exitCode.toUInt8 }
  | .error e => ofReport (.ofAgent e)

/-- The exit with messages that were printed before. -/
def after (earlier : List String) (e : Exit) : Exit :=
  { e with messages := earlier ++ e.messages }

end Exit

/-! ## The start of the agent -/

/-- **What the agent finds when it starts.** -/
structure Startup where
  /-- The command line, with the program in front. -/
  argv : List String
  surroundings : Surroundings
  user : UserPlaces := {}
  /-- The password that counts unless the command line gives one. -/
  password : Option String := none
  /-- The log filter that goes before what the command line says about logging. -/
  logFilter : Option String := none
  processes : Processes
  /-- The addresses of the machine. -/
  addresses : List String := []
deriving DecidableEq, Repr, Inhabited

/-- The failure of a configuration without a transport program. -/
def noTransport : Report where
  failure := "No transport command configured. Set transport_command in the config file or pass it "
    ++ "after \x60--\x60."

/-- The log filter that a command line stands for. -/
def Arguments.logFilter (a : Arguments) : String :=
  if a.foreground then "debug" else a.logLevel.getD "info"

/-- An operation on files that may end the agent. -/
abbrev StartupAction := ExceptT Report (StateM FileTree)

namespace Startup

/-- The configuration in a file. -/
def configIn (s : Startup) (t : FileTree) (path : String) : Except Report NodeConfig :=
  (loadConfig s.surroundings t path).mapError fun e =>
    (Report.ofConfig e).within ("Failed to load config from " ++ Text.quoted path)

/-- The configuration that the command line changes: that of the named file, else that of the user if
there is one, else the one with nothing set. -/
def fileConfig (s : Startup) (t : FileTree) (a : Arguments) : Except Report NodeConfig :=
  match a.configFile with
  | some path => s.configIn t path
  | none =>
    let path := configPath s.user
    if t.pathExists path then s.configIn t path else .ok (.standard s.surroundings)

/-- **The configuration of a run**, which was found to be able to work. -/
def config (s : Startup) (t : FileTree) (a : Arguments) : Except Report NodeConfig := do
  let config := a.applyTo (← s.fileConfig t a)
  config.validate.mapError fun e => (Report.ofConfig e).within "Invalid configuration"
  return config

/-- Claims the pid file of a configuration, if it has one. -/
def claim (s : Startup) (c : NodeConfig) : StartupAction Unit :=
  match c.pidFile with
  | none => pure ()
  | some path =>
    (claimPidFile s.processes path s.processes.own).adapt fun e =>
      (Report.ofSystem e).within "Failed to write PID file"

/-- The plan of a configuration in these surroundings. -/
def planFor (s : Startup) (t : FileTree) (transport : TransportCommand) (c : NodeConfig) :
    Except Report Plan :=
  let identity := t.identityHash c.fsRoot s.addresses
  (c.plan transport (c.registration s.surroundings identity) s.argv).mapError .ofConfig

/-- **Claims the pid file and makes a plan.** -/
def prepare (s : Startup) (a : Arguments) : StartupAction Plan := do
  let c ← s.config (← get) a
  let some transport := TransportCommand.ofList? c.transportCommand | throw noTransport
  s.claim c
  -- Whatever fails from here on gives the pid file up again.
  match s.planFor (← get) transport c with
  | .ok plan => return plan
  | .error report =>
    modify (releasePidFile c.pidFile)
    throw report

/-- What is said about the log filter. -/
def complaints (s : Startup) (a : Arguments) : List String :=
  filterComplaints (s.logFilter.getD a.logFilter)

/-- **Starts the agent**: the plan with the messages so far, or the exit of an agent that does not get
that far. -/
def begin (s : Startup) (t : FileTree) : Except Exit (Plan × List String) × FileTree :=
  match parseArguments s.password (s.argv.drop 1) with
  | .error stop => (.error (.ofStop stop), t)
  | .ok a =>
    match (s.prepare a).run.run t with
    | (.error report, t) => (.error ((Exit.ofReport report).after (s.complaints a)), t)
    | (.ok plan, t) => (.ok (plan, s.complaints a), t)

end Startup

end NodeAgent
