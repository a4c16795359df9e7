import NodeAgent.Config.Datum
import NodeAgent.Config.Node
import NodeAgent.Files.Tree
import NodeAgent.Toml.Document

/-!
# The configuration file

The configuration stands in a TOML document, whose fields are read by name, in their order, each with the
values it takes.  Unless another file is named, it is looked for in the directory where the user keeps
configurations.

## Main definitions

* `BackoffConfig.ofDatum?`, `NodeConfig.ofDatum?`: reading configurations from data.
* `configDirectory`, `configPath`: where the file is looked for.
* `loadConfig`: reading the file.
-/

namespace NodeAgent

/-! ## Configurations as data -/

/-- A whole number of 64 bits. -/
def Datum.seconds? (d : Datum) : Option UInt64 :=
  (d.nat? UInt64.size).map Nat.toUInt64

namespace BackoffConfig

/-- The fields of a back-off configuration. -/
def fields (format : DataFormat) : List (Datum.Field BackoffConfig) := [
  .set "policy" (Datum.choice? format BackoffPolicy.ofName?) fun c x => { c with policy := x },
  .set "interval" Datum.seconds? fun c x => { c with interval := x },
  .set "max_interval" Datum.seconds? fun c x => { c with maxInterval := x },
  .set "jitter" Datum.bool? fun c x => { c with jitter := x }]

/-- **Reads a back-off configuration.** -/
def ofDatum? (format : DataFormat) (d : Datum) : Option BackoffConfig :=
  d.record? format (fields format) {}

end BackoffConfig

namespace NodeConfig

/-- The fields of a configuration. -/
def fields (format : DataFormat) : List (Datum.Field NodeConfig) := [
  .set "url" (Datum.optional? Datum.text?) fun c x => { c with url := x },
  .set "broadcast" Datum.bool? fun c x => { c with broadcast := x },
  .set "discovery_address" Datum.text? fun c x => { c with discoveryAddress := x },
  .set "discovery_port" (Datum.nat? UInt16.size) fun c x => { c with discoveryPort := x.toUInt16 },
  .set "discovery_window" Datum.seconds? fun c x => { c with discoveryWindow := x },
  .set "name" (Datum.optional? Datum.text?) fun c x => { c with name := x },
  .set "description" (Datum.optional? Datum.text?) fun c x => { c with description := x },
  .set "executors" (Datum.nat? UInt32.size) fun c x => { c with executors := x.toUInt32 },
  .set "fs_root" Datum.text? fun c x => { c with fsRoot := x },
  .set "labels" Datum.texts? fun c x => { c with labels := x },
  .set "labels_file" (Datum.optional? Datum.text?) fun c x => { c with labelsFile := x },
  .set "mode" (Datum.choice? format NodeMode.ofName?) fun c x => { c with mode := x },
  .set "tool_locations" Datum.textTable? fun c x => { c with toolLocations := x },
  .set "delete_existing_clients" Datum.bool? fun c x => { c with deleteExistingClients := x },
  .set "disable_unique_id" Datum.bool? fun c x => { c with disableUniqueId := x },
  .set "username" (Datum.optional? Datum.text?) fun c x => { c with username := x },
  .set "password" (Datum.optional? Datum.text?) fun c x => { c with password := x },
  .set "disable_ssl_verification" Datum.bool? fun c x => { c with disableSslVerification := x },
  .set "ssl_fingerprints" Datum.texts? fun c x => { c with sslFingerprints := x },
  .set "retry" Datum.int? fun c x => { c with retry := x },
  .set "backoff" (BackoffConfig.ofDatum? format) fun c x => { c with backoff := x },
  .set "no_retry_after_connected" Datum.bool? fun c x => { c with noRetryAfterConnected := x },
  .set "label_poll_interval" Datum.seconds? fun c x => { c with labelPollInterval := x },
  .set "transport_command" Datum.texts? fun c x => { c with transportCommand := x },
  .set "pid_file" (Datum.optional? Datum.text?) fun c x => { c with pidFile := x },
  .set "request_timeout" Datum.seconds? fun c x => { c with requestTimeout := x }]

/-- **Reads a configuration.** -/
def ofDatum? (s : Surroundings) (format : DataFormat) (d : Datum) : Option NodeConfig :=
  d.record? format (fields format) (standard s)

end NodeConfig

/-! ## The file -/

/-- **Where the user keeps things**, as variables and the account say. -/
structure UserPlaces where
  /-- The directory of configurations; it counts if it is absolute. -/
  configHome : Option String := none
  /-- The home; it counts unless it is empty. -/
  home : Option String := none
  /-- The home that the account has. -/
  accountHome : Option String := none
deriving DecidableEq, Repr, Inhabited

/-- **The directory of the agent among the configurations of the user.** -/
def configDirectory (user : UserPlaces) : String :=
  let configHome := user.configHome.filter isAbsolutePath
  let home := (user.home.filter (· ≠ "")) <|> user.accountHome
  joinPath ((configHome <|> home.map (joinPath · ".config")).getD ".") "swarmlink"

/-- The file that is read unless another one is named. -/
def configPath (user : UserPlaces) : String :=
  joinPath (configDirectory user) "node.toml"

/-- The configuration in the text of a document. -/
def readConfig (s : Surroundings) (source : String) : Except ConfigError NodeConfig :=
  match Toml.parseToml source with
  | .error e => .error (.parse e.message)
  | .ok data =>
    match NodeConfig.ofDatum? s .toml data with
    | some config => .ok config
    | none => .error (.parse "invalid type or value")

/-- **Loads the configuration in a file.** -/
def loadConfig (s : Surroundings) (t : FileTree) (path : String) : Except ConfigError NodeConfig :=
  if !t.pathExists path then .error (.notFound path)
  else
    match t.readText path with
    | .error e => .error (.invalid ("Failed to read config: " ++ e.message))
    | .ok source => readConfig s source

end NodeAgent
