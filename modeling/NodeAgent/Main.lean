import NodeAgent.Startup.Offline
import NodeAgent.Supervisor.Basic

/-!
# The program

The program looks at the machine, starts the agent and follows its plan.  It has neither sockets nor
processes at its disposal: it runs as on a machine without a network, where the coordinator is looked
for until the attempts are used up.

## Main definitions

* `look`, `snapshot`, `writeBack`: the files of the machine as a file tree.
* `startupOf`: what the agent finds on this machine.
* `follow`: follows a plan.
* `main`: the program.
-/

namespace NodeAgent.Program

/-! ## Files -/

/-- What stands at a path.  A file that cannot be read counts as one that is not there. -/
def look (path : String) : IO (Option FileEntry) := do
  try
    return some (.file (← IO.FS.readBinFile path).toList false)
  catch
    | .inappropriateType none .. => return some .directory
    | _ => return none

/-- The text of a file, which may be missing. -/
def textAt (path : String) : IO (Option String) := do
  match ← look path with
  | some (.file content _) => return Text.decodeUtf8? content
  | _ => return none

/-- Adds what stands on the way along a path to a file tree. -/
def addRoute (t : FileTree) (place : Place) : List String → IO FileTree
  | [] => return t
  | ".." :: rest => addRoute t place.dropLast rest
  | name :: rest => do
    let there := place ++ [name]
    match ← look (pathOf true there) with
    | some entry => addRoute (t.put there entry) there rest
    | none => return t

/-- The names along a path. -/
def route (t : FileTree) (path : String) : List String :=
  (pathPieces (joinPath (pathOf true t.workingDirectory) path)).filter fun name =>
    name ≠ "" && name ≠ "."

/-- **The part of the machine's files** that some paths lead through. -/
def snapshot (t : FileTree) (paths : List String) : IO FileTree :=
  paths.foldlM (fun t path => addRoute t [] (route t path)) t

/-- **Does to the machine's files** what was done to a file tree. -/
def writeBack (before after : FileTree) : IO Unit := do
  for (place, _) in before.entries do
    if (after.entry? place).isNone then IO.FS.removeFile (pathOf true place)
  for (place, entry) in after.entries.mergeSort fun a b => a.1.length ≤ b.1.length do
    if before.entry? place ≠ some entry then
      match entry with
      | .directory => IO.FS.createDirAll (pathOf true place)
      | .file content _ => IO.FS.writeBinFile (pathOf true place) ⟨content.toArray⟩

/-! ## The machine -/

/-- The number of this process. -/
def ownProcess : IO UInt32 := do
  let status := (← textAt "/proc/self/stat").getD ""
  let number := status.toList.takeWhile (·.isDigit)
  return ((Text.readUInt32 (String.ofList number)).toOption).getD 0

/-- Those among some processes that are running. -/
def running (ids : List Nat) : IO (List Nat) :=
  ids.filterM fun id => do return (← look ("/proc/" ++ toString id ++ "/stat")).isSome

/-- What the machine is called and how many processors it has. -/
def surroundingsOf (directory : String) : IO Surroundings := do
  let hostname := (← textAt "/proc/sys/kernel/hostname").getD "localhost"
  let processors := ((← textAt "/proc/cpuinfo").getD "").splitOn "\nprocessor"
  return {
    hostname := Text.trim hostname
    processors := processors.length.toUInt32
    workingDirectory := directory
    discoveryPort := discoveryPort (← IO.getEnv "SWARM_UDP_PORT") (← IO.getEnv "HUDSON_UDP") }

/-- **What the agent finds on this machine.** -/
def startupOf (arguments : List String) : IO Startup := do
  let own ← ownProcess
  return {
    argv := (← IO.appPath).toString :: arguments
    surroundings := ← surroundingsOf (← IO.currentDir).toString
    user := { configHome := ← IO.getEnv "XDG_CONFIG_HOME", home := ← IO.getEnv "HOME" }
    password := ← IO.getEnv "SWARM_PASSWORD"
    logFilter := ← IO.getEnv "RUST_LOG"
    processes := { running := [own.toNat], own } }

/-! ## The run -/

/-- Does what the supervisor asks for.  As no coordinator is found, it only looks for one and sleeps. -/
def perform (plan : Plan) : SupervisorCall → IO (Option SupervisorEvent)
  | .discover => return some (.discovered plan.discoverOffline)
  | .sleep seconds => do
    for _ in [0:seconds.toNat] do IO.sleep 1000
    return some .slept
  | _ => return none

/-- Goes on with a run until it is over. -/
partial def attend {source : Words} (plan : Plan) (supervisor : Supervisor source)
    (calls : List SupervisorCall) : IO (Except AgentError Ending) := do
  match supervisor.phase, ← calls.findSomeM? (perform plan) with
  | .finished outcome, _ => return outcome
  | _, none => return .ok .disconnected
  | _, some event =>
    let (supervisor, calls) := supervisor.step plan.supervision event
    attend plan supervisor calls

/-- **Follows a plan.** -/
def follow (plan : Plan) : IO Exit := do
  let word ← IO.rand 0 (UInt64.size - 1)
  let source := Words.progression (2 * (← IO.rand 0 ((1 <<< 63) - 1)) + 1).toUInt64
  let (supervisor, calls) := @Supervisor.start source word.toUInt64
  return .ofRun (← attend plan supervisor calls)

/-- Prints what is left of a run. -/
def conclude (e : Exit) : IO UInt32 := do
  e.messages.forM IO.eprintln
  e.output.forM IO.println
  return e.status.toUInt32

/-- **Runs the agent.** -/
def run (arguments : List String) : IO UInt32 := do
  let startup ← startupOf arguments
  let empty : FileTree := { workingDirectory := pathComponents startup.surroundings.workingDirectory }
  let before ← snapshot empty startup.configPaths
  let before ← snapshot before (startup.workPaths before)
  let rivals ← running (startup.rivals before)
  let processes := { startup.processes with running := startup.processes.running ++ rivals }
  let (begun, after) := { startup with processes }.begin before
  writeBack before after
  match begun with
  | .error exit => conclude exit
  | .ok (plan, messages) =>
    messages.forM IO.eprintln
    let exit ← follow plan
    writeBack after (releasePidFile plan.pidFile after)
    conclude exit

end NodeAgent.Program

/-- The program. -/
def main (arguments : List String) : IO UInt32 :=
  NodeAgent.Program.run arguments
