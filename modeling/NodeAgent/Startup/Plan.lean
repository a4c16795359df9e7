import NodeAgent.Config.Node
import NodeAgent.Http.Client
import NodeAgent.Supervisor.Retry
import NodeAgent.Transport.Command

/-!
# Plans

A configuration that can work is turned into a plan: how the coordinator is found, as what the node is
registered, which program keeps the connection, and when the agent gives up.

## Main definitions

* `Plan`: what the agent is going to do.
* `NodeConfig.registration`: what the node is registered as.
* `NodeConfig.supervision`: when and how often the agent tries.
* `NodeConfig.plan`: the plan of a configuration.
-/

namespace NodeAgent

/-- **What the agent is going to do.** -/
structure Plan where
  discovery : DiscoveryMode
  trust : TrustPolicy
  client : HttpClient
  transport : TransportCommand
  supervision : SupervisorSettings
  /-- The pid file that is held as long as the agent runs. -/
  pidFile : Option String := none
deriving DecidableEq

namespace NodeConfig

/-- **What the node is registered as**, given the identity of the machine. -/
def registration (c : NodeConfig) (s : Surroundings) (identity : String) : Registration where
  name := c.nodeName s
  description := c.description
  executors := c.executors
  fsRoot := c.fsRoot
  labels := c.staticLabels
  toolLocations := c.toolLocations
  mode := c.mode
  hash := if c.disableUniqueId then none else some identity
  deleteExistingClients := c.deleteExistingClients

/-- The watch on the label file, if there is one.  A restart uses the command line of the agent. -/
def watchSettings? (c : NodeConfig) (argv : List String) : Option WatchSettings :=
  c.labelsFile.map fun path =>
    { path
      pollInterval := 1000 * c.labelPollInterval.toNat
      staticLabels := c.staticLabels
      argv }

/-- **When and how often the agent tries.**  A coordinator is checked unless there are credentials to
show it. -/
def supervision (c : NodeConfig) (registration : Registration) (argv : List String) :
    SupervisorSettings where
  registration := registration
  verify := !c.hasCredentials
  retryBudget := c.retryBudget
  backoff := c.backoff
  noRetryAfterConnected := c.noRetryAfterConnected
  labelWatch := c.watchSettings? argv

/-- **The plan of a configuration.** -/
def plan (c : NodeConfig) (transport : TransportCommand) (registration : Registration)
    (argv : List String) : Except ConfigError Plan := do
  let trust ← c.trust
  let discovery ← c.discovery
  return {
    discovery, trust, transport
    client := ⟨c.credentials?⟩
    supervision := c.supervision registration argv
    pidFile := c.pidFile }

end NodeConfig

end NodeAgent
