import NodeAgent.Backoff.Policy
import NodeAgent.Coordinator.Candidate
import NodeAgent.Error.Agent
import NodeAgent.Http.Trust
import NodeAgent.Identity.Machine
import NodeAgent.Label.Set

/-!
# The configuration of a node

Everything that can be set about a node.  What is not set takes a default, and some defaults come from
the surroundings of the agent.  A configuration that cannot work is refused before anything is done.

## Main definitions

* `NodeConfig`, `NodeConfig.standard`: the configuration, and the one with nothing set.
* `NodeConfig.validate`: the checks.
* `NodeConfig.trust`, `NodeConfig.credentials?`, `NodeConfig.discovery`: what a configuration says
  about servers, users and finding the coordinator.
-/

namespace NodeAgent

open Text

/-- **The configuration of a node.**  Intervals are in seconds. -/
structure NodeConfig where
  /-- Where the coordinator is; without it the coordinator is found by broadcast. -/
  url : Option String := none
  /-- Whether to broadcast even with an address, for the secret alone. -/
  broadcast : Bool := false
  discoveryAddress : String := "255.255.255.255"
  discoveryPort : UInt16
  discoveryWindow : UInt64 := 5
  name : Option String := none
  description : Option String := none
  executors : UInt32
  fsRoot : String
  labels : List String := []
  labelsFile : Option String := none
  mode : NodeMode := .normal
  /-- Where tools are, with increasing names. -/
  toolLocations : List (String × String) := []
  deleteExistingClients : Bool := false
  disableUniqueId : Bool := false
  username : Option String := none
  password : Option String := none
  disableSslVerification : Bool := false
  sslFingerprints : List String := []
  /-- The number of attempts; a negative number sets no limit. -/
  retry : Int64 := -1
  backoff : BackoffConfig := {}
  noRetryAfterConnected : Bool := false
  labelPollInterval : UInt64 := 10
  transportCommand : List String := []
  pidFile : Option String := none
  requestTimeout : UInt64 := 30
deriving DecidableEq, Repr, Inhabited

/-- **How the coordinator is found.** -/
inductive DiscoveryMode
  /-- It is asked at its address. -/
  | direct (url : Url)
  /-- It answers a broadcast. -/
  | broadcast (address : String) (port : UInt16) (window : UInt64) (pinned : Option Url)
deriving DecidableEq, Repr, Inhabited

namespace NodeConfig

/-- The configuration with nothing set. -/
def standard (s : Surroundings) : NodeConfig where
  discoveryPort := s.discoveryPort
  executors := s.processors
  fsRoot := s.workingDirectory

/-- The name under which the node asks to be registered. -/
def nodeName (c : NodeConfig) (s : Surroundings) : String :=
  c.name.getD s.hostname

/-- **The address of the coordinator**, with a slash at the end of its path, if one is set. -/
def coordinatorUrl (c : NodeConfig) : Except ConfigError (Option Url) :=
  match c.url with
  | none => .ok none
  | some raw =>
    match Url.parse raw with
    | .error e => .error (.invalidUrl raw e.message)
    | .ok url =>
      if !url.isWeb then .error (.invalidUrl raw ("unsupported scheme '" ++ url.scheme ++ "'"))
      else if url.host?.isNone then .error (.invalidUrl raw "missing host")
      else .ok (some url.withTrailingSlash)

/-- Whether a user name and a password are set. -/
def hasCredentials (c : NodeConfig) : Bool :=
  c.username.isSome && c.password.isSome

/-- The user name and password, if both are set. -/
def credentials? (c : NodeConfig) : Option Credentials := do
  return ⟨← c.username, ← c.password⟩

/-- The number of attempts, unless there is no limit. -/
def retryBudget (c : NodeConfig) : Option UInt32 :=
  if c.retry < 0 then none else some (min c.retry.toInt.toNat (UInt32.size - 1)).toUInt32

/-- The labels that are set.  An entry may hold several. -/
def staticLabels (c : NodeConfig) : LabelSet :=
  .ofList (c.labels.flatMap words)

/-- Who decides about certificates. -/
def trust (c : NodeConfig) : Except ConfigError TrustPolicy :=
  if c.disableSslVerification then .ok .anything else TrustPolicy.pinning c.sslFingerprints

/-- **How the coordinator is found.** -/
def discovery (c : NodeConfig) : Except ConfigError DiscoveryMode :=
  c.coordinatorUrl.map fun
    | some url =>
      if c.broadcast then
        .broadcast c.discoveryAddress c.discoveryPort c.discoveryWindow (some url)
      else .direct url
    | none => .broadcast c.discoveryAddress c.discoveryPort c.discoveryWindow none

/-- A check: nothing if it holds, an error otherwise. -/
def require (holds : Bool) (error : ConfigError) : Except ConfigError Unit :=
  if holds then .ok () else .error error

/-- **Refuses configurations that cannot work.** -/
def validate (c : NodeConfig) : Except ConfigError Unit := do
  let _ ← c.coordinatorUrl
  require (!c.disableSslVerification || c.sslFingerprints.isEmpty)
    (.mutuallyExclusive "disable_ssl_verification" "ssl_fingerprints")
  require (c.username.isNone || c.password.isSome) (.missingField "password")
  require (c.password.isNone || c.username.isSome) (.missingField "username")
  require (c.executors ≠ 0) (.invalid "executors must be at least 1")
  require (c.retry ≠ 0) (.invalid "retry must be positive, or negative to retry forever")
  require (c.backoff.interval ≠ 0) (.invalid "backoff.interval must be at least one second")
  require (c.backoff.interval ≤ c.backoff.maxInterval) <| .invalid <|
    "backoff.max_interval (" ++ toString c.backoff.maxInterval.toNat
      ++ "s) is smaller than backoff.interval (" ++ toString c.backoff.interval.toNat ++ "s)"
  require (c.labelPollInterval ≠ 0) (.invalid "label_poll_interval must be at least one second")
  require (!(c.name.map isBlankText).getD false) (.invalid "name must not be blank")
  c.toolLocations.forM fun (key, _) =>
    require (!key.toList.contains ':') <|
      .invalid ("tool location key '" ++ key ++ "' must not contain ':'")

end NodeConfig

end NodeAgent
