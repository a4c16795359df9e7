import NodeAgent.Config.Node
import NodeAgent.Text.LowerCase
import NodeAgent.Text.Sorted

/-!
# What the command line sets

The command line names a configuration file and overrides what stands in it: a single value takes the
place of the one in the file, lists grow, and a switch can only be turned on.

## Main definitions

* `Arguments`: what the command line sets.
* `Arguments.applyTo`: the configuration with what the command line sets.
* `readMode`, `readToolLocation`: values with a form of their own.
-/

namespace NodeAgent

open Text

/-- **What the command line sets.** -/
structure Arguments where
  configFile : Option String := none
  url : Option String := none
  broadcast : Bool := false
  name : Option String := none
  description : Option String := none
  executors : Option UInt32 := none
  fsRoot : Option String := none
  labels : List String := []
  labelsFile : Option String := none
  mode : Option NodeMode := none
  toolLocations : List (String × String) := []
  deleteExistingClients : Bool := false
  disableUniqueId : Bool := false
  username : Option String := none
  password : Option String := none
  disableSslVerification : Bool := false
  sslFingerprints : List String := []
  retry : Option Int64 := none
  backoffPolicy : Option BackoffPolicy := none
  retryInterval : Option UInt64 := none
  maxRetryInterval : Option UInt64 := none
  noRetryAfterConnected : Bool := false
  pidFile : Option String := none
  foreground : Bool := false
  logLevel : Option String := none
  transportCommand : List String := []
deriving DecidableEq, Repr, Inhabited

namespace Arguments

/-- The back-off configuration with what the command line sets. -/
def applyToBackoff (a : Arguments) (c : BackoffConfig) : BackoffConfig :=
  { c with
    policy := a.backoffPolicy.getD c.policy
    interval := a.retryInterval.getD c.interval
    maxInterval := a.maxRetryInterval.getD c.maxInterval }

/-- The tool locations with those of the command line; of two for one tool the later one counts. -/
def applyToTools (a : Arguments) (tools : List (String × String)) : List (String × String) :=
  a.toolLocations.foldl (fun tools (name, path) => putSorted name path tools) tools

/-- **The configuration with what the command line sets.** -/
def applyTo (a : Arguments) (c : NodeConfig) : NodeConfig :=
  { c with
    url := a.url <|> c.url
    broadcast := c.broadcast || a.broadcast
    name := a.name <|> c.name
    description := a.description <|> c.description
    executors := a.executors.getD c.executors
    fsRoot := a.fsRoot.getD c.fsRoot
    labels := c.labels ++ a.labels
    labelsFile := a.labelsFile <|> c.labelsFile
    mode := a.mode.getD c.mode
    toolLocations := a.applyToTools c.toolLocations
    deleteExistingClients := c.deleteExistingClients || a.deleteExistingClients
    disableUniqueId := c.disableUniqueId || a.disableUniqueId
    username := a.username <|> c.username
    password := a.password <|> c.password
    disableSslVerification := c.disableSslVerification || a.disableSslVerification
    sslFingerprints := c.sslFingerprints ++ a.sslFingerprints
    retry := a.retry.getD c.retry
    backoff := a.applyToBackoff c.backoff
    noRetryAfterConnected := c.noRetryAfterConnected || a.noRetryAfterConnected
    pidFile := a.pidFile <|> c.pidFile
    transportCommand :=
      if a.transportCommand.isEmpty then c.transportCommand else a.transportCommand }

end Arguments

/-- Reads a mode; ASCII letters count in either case. -/
def readMode (text : String) : Except String NodeMode :=
  let lowered := toLowerAscii text
  match NodeMode.ofName? lowered with
  | some mode => .ok mode
  | none => .error ("unknown mode '" ++ lowered ++ "' (expected normal or exclusive)")

/-- **Reads the location of a tool**: its name before the first equals sign and its path behind, both not
empty. -/
def readToolLocation (text : String) : Except String (String × String) :=
  match splitAtFirst (· == '=') text.toList with
  | some (c :: name, d :: path) => .ok (String.ofList (c :: name), String.ofList (d :: path))
  | _ => .error ("expected NAME=PATH, got '" ++ text ++ "'")

end NodeAgent
