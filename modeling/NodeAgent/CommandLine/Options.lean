import NodeAgent.CommandLine.Arguments
import NodeAgent.Text.Number

/-!
# The options

## Main definitions

* `UsageError`: command lines that cannot be understood, with their texts.
* `CommandOption`: an option, by its names and what it does.
* `commandOptions`: all options.
* `helpLines`: what is shown when help is asked for.
-/

namespace NodeAgent

open Text

/-- **A command line that cannot be understood.** -/
inductive UsageError
  | unexpectedArgument (argument : String)
  | missingValue (option : String)
  | badValue (option value reason : String)
  | repeated (option : String)
  | unwantedValue (option value : String)
deriving DecidableEq, Repr

/-- The text of a usage error. -/
def UsageError.message : UsageError → String
  | unexpectedArgument argument => "unexpected argument '" ++ argument ++ "' found"
  | missingValue option => "a value is required for '" ++ option ++ "' but none was supplied"
  | badValue option value reason =>
    "invalid value '" ++ value ++ "' for '" ++ option ++ "': " ++ reason
  | repeated option => "the argument '" ++ option ++ "' cannot be used multiple times"
  | unwantedValue option value =>
    "unexpected value '" ++ value ++ "' for '" ++ option ++ "' found; no more were expected"

/-- Why a value is not taken. -/
inductive ValueFault
  /-- An empty value is as good as none. -/
  | missing
  | bad (reason : String)
deriving DecidableEq, Repr

/-- **What an option does.** -/
inductive OptionEffect
  /-- It turns on a switch. -/
  | turnOn (isOn : Arguments → Bool) (set : Arguments → Arguments)
  /-- It takes a value, shown under a name. -/
  | take (valueName : String) (isSet : Arguments → Bool)
      (set : String → Arguments → Except ValueFault Arguments)
  | showHelp
  | showVersion

/-- **An option.** -/
structure CommandOption where
  long : String
  short : Option Char := none
  effect : OptionEffect
  /-- Whether whatever follows is its value, even if it looks like an option. -/
  takesAnything : Bool := false
  /-- What it is for. -/
  help : String

namespace CommandOption

/-- An option in messages. -/
def shown (o : CommandOption) : String :=
  match o.effect with
  | .take valueName _ _ => "--" ++ o.long ++ " <" ++ valueName ++ ">"
  | _ => "--" ++ o.long

/-- Whether an option takes a value. -/
def takesValue (o : CommandOption) : Bool :=
  match o.effect with
  | .take .. => true
  | _ => false

end CommandOption

/-- The effect of an option with a value that may be given once. -/
def takeOnce {α : Type} (valueName : String) (read : String → Except ValueFault α)
    (get : Arguments → Option α) (set : α → Arguments → Arguments) : OptionEffect :=
  .take valueName (fun a => (get a).isSome) fun text a => (read text).map (set · a)

/-- The effect of an option with a value that may be given again and again. -/
def takeEach {α : Type} (valueName : String) (read : String → Except ValueFault α)
    (add : α → Arguments → Arguments) : OptionEffect :=
  .take valueName (fun _ => false) fun text a => (read text).map (add · a)

/-- Any text. -/
def anyText (text : String) : Except ValueFault String :=
  .ok text

/-- A path, which is not empty. -/
def pathText (text : String) : Except ValueFault String :=
  if text.isEmpty then .error .missing else .ok text

/-- A value with a form of its own. -/
def formed {α : Type} (read : String → Except String α) (text : String) : Except ValueFault α :=
  (read text).mapError .bad

/-- A number of 32 bits.  It is read as a signed number of 64 bits and has to be in range. -/
def readExecutors (text : String) : Except String UInt32 :=
  match readInt (1 <<< 63) ((1 <<< 63) - 1) text with
  | .error e => .error e.message
  | .ok n =>
    if 0 ≤ n ∧ n < UInt32.size then .ok n.toNat.toUInt32
    else .error (toString n ++ " is not in 0..=4294967295")

/-- A number of seconds. -/
def readSeconds (text : String) : Except String UInt64 :=
  (readUInt64 text).mapError (·.message)

/-- A number of attempts, with a sign. -/
def readRetry (text : String) : Except String Int64 :=
  (readInt64 text).mapError (·.message)

/-- **All options.** -/
def commandOptions : List CommandOption := [
  { long := "config", short := some 'c', help := "Path to configuration file"
    effect := takeOnce "CONFIG" pathText (·.configFile) fun x a => { a with configFile := some x } },
  { long := "url", short := some 'u', help := "Coordinator URL (broadcast discovery when omitted)"
    effect := takeOnce "URL" anyText (·.url) fun x a => { a with url := some x } },
  { long := "broadcast", help := "Use broadcast discovery even when a URL is given"
    effect := .turnOn (·.broadcast) fun a => { a with broadcast := true } },
  { long := "name", short := some 'n', help := "Node name (defaults to hostname)"
    effect := takeOnce "NAME" anyText (·.name) fun x a => { a with name := some x } },
  { long := "description", help := "Node description"
    effect := takeOnce "DESCRIPTION" anyText (·.description) fun x a =>
      { a with description := some x } },
  { long := "executors", short := some 'e', help := "Number of executors"
    effect := takeOnce "EXECUTORS" (formed readExecutors) (·.executors) fun x a =>
      { a with executors := some x } },
  { long := "fs-root", help := "Remote filesystem root"
    effect := takeOnce "FS_ROOT" pathText (·.fsRoot) fun x a => { a with fsRoot := some x } },
  { long := "labels", short := some 'l', help := "Static labels, space separated or repeated"
    effect := takeEach "LABELS" anyText fun x a => { a with labels := a.labels ++ [x] } },
  { long := "labels-file", help := "File with labels to keep in sync while connected"
    effect := takeOnce "LABELS_FILE" pathText (·.labelsFile) fun x a =>
      { a with labelsFile := some x } },
  { long := "mode", short := some 'm', help := "Scheduling mode"
    effect := takeOnce "MODE" (formed readMode) (·.mode) fun x a => { a with mode := some x } },
  { long := "tool-location", short := some 't', help := "Tool location as NAME=PATH (repeatable)"
    effect := takeEach "TOOL_LOCATIONS" (formed readToolLocation) fun x a =>
      { a with toolLocations := a.toolLocations ++ [x] } },
  { long := "delete-existing-clients", help := "Replace an existing node with the same name"
    effect := .turnOn (·.deleteExistingClients) fun a => { a with deleteExistingClients := true } },
  { long := "disable-unique-id", help := "Do not send the machine identity hash"
    effect := .turnOn (·.disableUniqueId) fun a => { a with disableUniqueId := true } },
  { long := "username", help := "Username for basic authentication"
    effect := takeOnce "USERNAME" anyText (·.username) fun x a => { a with username := some x } },
  { long := "password", help := "Password or API token for basic authentication"
    effect := takeOnce "PASSWORD" anyText (·.password) fun x a => { a with password := some x } },
  { long := "disable-ssl-verification", help := "Accept any server certificate"
    effect := .turnOn (·.disableSslVerification) fun a => { a with disableSslVerification := true } },
  { long := "ssl-fingerprint", help := "Accepted SHA-256 certificate fingerprint (repeatable)"
    effect := takeEach "SSL_FINGERPRINTS" anyText fun x a =>
      { a with sslFingerprints := a.sslFingerprints ++ [x] } },
  { long := "retry", help := "Connection attempts before giving up; negative retries forever"
    takesAnything := true
    effect := takeOnce "RETRY" (formed readRetry) (·.retry) fun x a => { a with retry := some x } },
  { long := "retry-backoff-strategy"
    help := "Back-off between attempts (none, linear, exponential)"
    effect := takeOnce "RETRY_BACKOFF_STRATEGY" (formed BackoffPolicy.parse) (·.backoffPolicy)
      fun x a => { a with backoffPolicy := some x } },
  { long := "retry-interval", help := "Base back-off interval in seconds"
    effect := takeOnce "RETRY_INTERVAL" (formed readSeconds) (·.retryInterval) fun x a =>
      { a with retryInterval := some x } },
  { long := "max-retry-interval", help := "Longest back-off interval in seconds"
    effect := takeOnce "MAX_RETRY_INTERVAL" (formed readSeconds) (·.maxRetryInterval) fun x a =>
      { a with maxRetryInterval := some x } },
  { long := "no-retry-after-connected", help := "Exit once the first connection ends"
    effect := .turnOn (·.noRetryAfterConnected) fun a => { a with noRetryAfterConnected := true } },
  { long := "pid-file", help := "Write our PID to this file"
    effect := takeOnce "PID_FILE" pathText (·.pidFile) fun x a => { a with pidFile := some x } },
  { long := "foreground", short := some 'f', help := "Run in foreground with verbose output"
    effect := .turnOn (·.foreground) fun a => { a with foreground := true } },
  { long := "log-level", help := "Log level (error, warn, info, debug, trace)"
    effect := takeOnce "LOG_LEVEL" anyText (·.logLevel) fun x a => { a with logLevel := some x } },
  { long := "help", short := some 'h', help := "Print help", effect := .showHelp },
  { long := "version", short := some 'V', help := "Print version", effect := .showVersion }]

/-! ## Help -/

/-- The name of the program. -/
def programName : String := "sl-agent"

/-- The version of the program. -/
def programVersion : String := "0.1.0"

/-- What the program is for. -/
def programPurpose : String :=
  "swarmlink node agent - joins a build coordinator as a swarm node"

/-- The line that names the version. -/
def versionLine : String :=
  programName ++ " " ++ programVersion

namespace CommandOption

/-- An option with its short name. -/
def usage (o : CommandOption) : String :=
  match o.short with
  | some c => "  -" ++ String.singleton c ++ ", " ++ o.shown
  | none => "      " ++ o.shown

/-- The lines about an option. -/
def helpLines (o : CommandOption) : List String :=
  [o.usage, "          " ++ o.help]

end CommandOption

/-- **What is shown when help is asked for.** -/
def helpLines : List String :=
  [programPurpose, "", "Usage: " ++ programName ++ " [OPTIONS] [-- <TRANSPORT_COMMAND>...]", "",
    "Arguments:", "  [TRANSPORT_COMMAND]...", "          Transport command and its arguments", "",
    "Options:"]
    ++ commandOptions.flatMap CommandOption.helpLines

end NodeAgent
