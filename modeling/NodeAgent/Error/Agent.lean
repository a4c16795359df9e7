import NodeAgent.Error.System
import NodeAgent.Text.Glyphless

/-!
# What can go wrong with a node

Every failure is a cause.  Its text is made in one place, and the supervisor asks one question about
it: whether another attempt may succeed.

## Main definitions

* `ProtocolError`: failures on the way to the coordinator and back.
* `TransportError`: failures of the program that keeps the connection.
* `LabelUpdateError`: failures of a change of labels in place.
* `ConfigError`: configurations that cannot work.
* `AgentError`: any failure of an attempt, with `AgentError.isRetryable`.
-/

namespace NodeAgent

open Text (quoted)

/-- **What the agent asks of a coordinator.** -/
inductive Operation
  | discovery
  | statusProbe
  | address
  | createNode
  | getLabels
  | addLabels
  | removeLabels
  /-- Anything else, by name. -/
  | named (name : String)
deriving DecidableEq, Repr, Inhabited

/-- The name of an operation in messages. -/
def Operation.name : Operation → String
  | discovery => "discovery"
  | statusProbe => "status probe"
  | address => "url"
  | createNode => "create node"
  | getLabels => "get labels"
  | addLabels => "add labels"
  | removeLabels => "remove labels"
  | named name => name

/-- **Why a request was not answered.** -/
inductive HttpError
  /-- The request cannot be sent as it is. -/
  | badRequest
  /-- There is no connection, or it ended too early. -/
  | noConnection
  /-- One redirection followed another too often. -/
  | tooManyRedirects
  /-- The certificate is not one of the listed ones. -/
  | untrusted (fingerprint : String)
deriving DecidableEq, Repr, Inhabited

/-- The text of a request failure. -/
def HttpError.message : HttpError → String
  | badRequest => "builder error"
  | noConnection => "error sending request"
  | tooManyRedirects => "error following redirect"
  | untrusted fingerprint => "certificate fingerprint " ++ fingerprint ++ " is not trusted"

/-- **Failures on the way to the coordinator and back.** -/
inductive ProtocolError
  /-- Nobody answered the broadcast in time. -/
  | noResponse (address : String)
  /-- The answer had another status than wanted. -/
  | badStatus (operation : Operation) (status : UInt16) (body : String)
  /-- The answer could not be understood. -/
  | malformed (operation : Operation) (reason : String)
  /-- The coordinator wants credentials. -/
  | authenticationRequired (url : String)
  /-- Whoever answered is no coordinator. -/
  | notACoordinator (url : String)
  /-- There was no answer. -/
  | http (cause : HttpError)
  /-- The discovery socket failed. -/
  | io (cause : SystemError)
deriving DecidableEq, Repr, Inhabited

namespace ProtocolError

/-- The text of a protocol failure. -/
def message : ProtocolError → String
  | noResponse address => "No coordinator responded to broadcast on " ++ address
  | badStatus operation status body =>
    operation.name ++ " failed with HTTP " ++ toString status.toNat ++ ": " ++ body
  | malformed operation reason => "Malformed response from " ++ operation.name ++ ": " ++ reason
  | authenticationRequired url =>
    "Authentication required by " ++ url ++ "; configure a username and password"
  | notACoordinator url => url ++ " does not look like a coordinator"
  | http cause => "HTTP request failed: " ++ cause.message
  | io cause => "Discovery I/O failed: " ++ cause.message

/-- The text of the failure behind a protocol failure. -/
def source? : ProtocolError → Option String
  | http cause => some cause.message
  | io cause => some cause.message
  | _ => none

end ProtocolError

/-- **Failures of the program that keeps the connection.** -/
inductive TransportError
  /-- It could not be started. -/
  | spawn (cause : SystemError)
  /-- It ended with a status other than zero. -/
  | exitStatus (code : Int)
  /-- A signal ended it. -/
  | signaled
  /-- The connection broke. -/
  | connectionLost (reason : String)
deriving DecidableEq, Repr, Inhabited

namespace TransportError

/-- The text of a transport failure. -/
def message : TransportError → String
  | spawn cause => "Failed to start transport: " ++ cause.message
  | exitStatus code => "Transport exited with status " ++ toString code
  | signaled => "Transport terminated by signal"
  | connectionLost reason => "Connection lost: " ++ reason

/-- The text of the failure behind a transport failure. -/
def source? : TransportError → Option String
  | spawn cause => some cause.message
  | _ => none

end TransportError

/-- **Failures of a change of labels in place.** -/
inductive LabelUpdateError
  /-- The label file could not be read. -/
  | file (path : String) (cause : SystemError)
  /-- A request to the coordinator failed part of the way. -/
  | coordinator (cause : ProtocolError)
deriving DecidableEq, Repr, Inhabited

namespace LabelUpdateError

/-- The text of a failed change of labels. -/
def message : LabelUpdateError → String
  | file path cause => "Failed to read label file " ++ quoted path ++ ": " ++ cause.message
  | coordinator cause => "Coordinator rejected label update: " ++ cause.message

/-- The text of the failure behind a failed change of labels. -/
def source : LabelUpdateError → String
  | file _ cause => cause.message
  | coordinator cause => cause.message

end LabelUpdateError

/-- **Configurations that cannot work.** -/
inductive ConfigError
  /-- There is no configuration file. -/
  | notFound (path : String)
  /-- A value makes no sense. -/
  | invalid (reason : String)
  /-- The address of the coordinator makes no sense. -/
  | invalidUrl (url : String) (reason : String)
  /-- Two options exclude each other. -/
  | mutuallyExclusive (first second : String)
  /-- The file is no configuration document. -/
  | parse (reason : String)
  /-- A value is missing that another one needs. -/
  | missingField (field : String)
deriving DecidableEq, Repr, Inhabited

namespace ConfigError

/-- The text of a configuration failure. -/
def message : ConfigError → String
  | notFound path => "Config file not found: " ++ path
  | invalid reason => "Invalid config: " ++ reason
  | invalidUrl url reason => "Invalid coordinator URL " ++ quoted url ++ ": " ++ reason
  | mutuallyExclusive first second =>
    "Options " ++ first ++ " and " ++ second ++ " are mutually exclusive"
  | parse reason => "TOML parse error: " ++ reason
  | missingField field => "Missing required field: " ++ field

/-- The text of the failure behind a configuration failure. -/
def source? : ConfigError → Option String
  | parse reason => some reason
  | _ => none

end ConfigError

/-- **Any failure of an attempt.** -/
inductive AgentError
  | protocol (cause : ProtocolError)
  | transport (cause : TransportError)
  | config (cause : ConfigError)
deriving DecidableEq, Repr, Inhabited

namespace AgentError

/-- The text of a failure. -/
def message : AgentError → String
  | protocol cause => "Protocol error: " ++ cause.message
  | transport cause => "Transport error: " ++ cause.message
  | config cause => "Configuration error: " ++ cause.message

/-- **Whether another attempt may succeed.**  It cannot with a wrong configuration, or with a
transport program that is not there or may not be run. -/
def isRetryable : AgentError → Bool
  | protocol _ => true
  | transport (.spawn cause) => cause.kind != .notFound && cause.kind != .permissionDenied
  | transport _ => true
  | config _ => false

end AgentError

end NodeAgent
