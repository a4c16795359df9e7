import NodeAgent.Backoff.Policy
import NodeAgent.Backoff.Schedule
import NodeAgent.Backoff.Uniform
import NodeAgent.CommandLine.Arguments
import NodeAgent.CommandLine.LogFilter
import NodeAgent.CommandLine.Options
import NodeAgent.CommandLine.Parser
import NodeAgent.Config.Datum
import NodeAgent.Config.File
import NodeAgent.Config.Node
import NodeAgent.Coordinator.Candidate
import NodeAgent.Coordinator.Client
import NodeAgent.Coordinator.Exchange
import NodeAgent.Coordinator.Registration
import NodeAgent.Dialogue
import NodeAgent.Digest.Sha256
import NodeAgent.Discovery.Broadcast
import NodeAgent.Discovery.Direct
import NodeAgent.Discovery.Window
import NodeAgent.Error.Agent
import NodeAgent.Error.Report
import NodeAgent.Error.System
import NodeAgent.Files.PidFile
import NodeAgent.Files.Tree
import NodeAgent.Http.Client
import NodeAgent.Http.Message
import NodeAgent.Http.Trust
import NodeAgent.Identity.Machine
import NodeAgent.Label.Chunk
import NodeAgent.Label.Set
import NodeAgent.Label.Update
import NodeAgent.Label.Watch
import NodeAgent.Main
import NodeAgent.Proofs.Backoff.Fairness
import NodeAgent.Proofs.Backoff.Policy
import NodeAgent.Proofs.Backoff.Schedule
import NodeAgent.Proofs.Backoff.Uniform
import NodeAgent.Proofs.CommandLine.Grammar
import NodeAgent.Proofs.CommandLine.Reading
import NodeAgent.Proofs.CommandLine.Tools
import NodeAgent.Proofs.Config.Reading
import NodeAgent.Proofs.Config.Time
import NodeAgent.Proofs.Config.Validate
import NodeAgent.Proofs.Coordinator.Address
import NodeAgent.Proofs.Coordinator.Calls
import NodeAgent.Proofs.Coordinator.Delivery
import NodeAgent.Proofs.Coordinator.Endpoint
import NodeAgent.Proofs.Coordinator.Exchange
import NodeAgent.Proofs.Coordinator.Keeper
import NodeAgent.Proofs.Coordinator.Keeping
import NodeAgent.Proofs.Coordinator.NodeName
import NodeAgent.Proofs.Coordinator.Payload
import NodeAgent.Proofs.Coordinator.Rounds
import NodeAgent.Proofs.Coordinator.SoftUpdate
import NodeAgent.Proofs.Coordinator.Tools
import NodeAgent.Proofs.Dialogue
import NodeAgent.Proofs.Discovery.Announcement
import NodeAgent.Proofs.Discovery.Outcome
import NodeAgent.Proofs.Discovery.Responses
import NodeAgent.Proofs.Discovery.Secret
import NodeAgent.Proofs.Discovery.Window
import NodeAgent.Proofs.Files.Blocking
import NodeAgent.Proofs.Files.Parent
import NodeAgent.Proofs.Files.Path
import NodeAgent.Proofs.Files.PidFile
import NodeAgent.Proofs.Files.Tree
import NodeAgent.Proofs.Http.Trust
import NodeAgent.Proofs.Identity.Mixing
import NodeAgent.Proofs.Label.Canonical
import NodeAgent.Proofs.Label.Chunk
import NodeAgent.Proofs.Label.Packing
import NodeAgent.Proofs.Label.Polling
import NodeAgent.Proofs.Label.Set
import NodeAgent.Proofs.Label.Update
import NodeAgent.Proofs.Result
import NodeAgent.Proofs.Supervisor.Attempts
import NodeAgent.Proofs.Supervisor.Baseline
import NodeAgent.Proofs.Supervisor.FailedChange
import NodeAgent.Proofs.Supervisor.History
import NodeAgent.Proofs.Supervisor.Overlap
import NodeAgent.Proofs.Supervisor.Restart
import NodeAgent.Proofs.Supervisor.Step
import NodeAgent.Proofs.Text.LowerCase
import NodeAgent.Proofs.Text.Number
import NodeAgent.Proofs.Text.Sorted
import NodeAgent.Proofs.Text.Split
import NodeAgent.Proofs.Text.Utf8
import NodeAgent.Proofs.Text.Words
import NodeAgent.Proofs.Url.Form
import NodeAgent.Proofs.Url.Path
import NodeAgent.Proofs.Url.Slash
import NodeAgent.Proofs.Xml.Content
import NodeAgent.Proofs.Xml.Data
import NodeAgent.Proofs.Xml.Elements
import NodeAgent.Proofs.Xml.Namespaces
import NodeAgent.Proofs.Xml.Plain
import NodeAgent.Proofs.Xml.Prolog
import NodeAgent.Proofs.Xml.Readers
import NodeAgent.Proofs.Xml.Reading
import NodeAgent.Proofs.Xml.Tag
import NodeAgent.Proofs.Xml.Written
import NodeAgent.Scenario.Program
import NodeAgent.Scenario.Run
import NodeAgent.Scenario.Shell
import NodeAgent.Scenario.World
import NodeAgent.Startup.Basic
import NodeAgent.Startup.Offline
import NodeAgent.Startup.Plan
import NodeAgent.Supervisor.Basic
import NodeAgent.Supervisor.Retry
import NodeAgent.Text.CaseTable
import NodeAgent.Text.Charset
import NodeAgent.Text.Composed
import NodeAgent.Text.ComposedTable
import NodeAgent.Text.Glyphless
import NodeAgent.Text.LowerCase
import NodeAgent.Text.Number
import NodeAgent.Text.Reader
import NodeAgent.Text.Sorted
import NodeAgent.Text.Split
import NodeAgent.Text.Utf8
import NodeAgent.Toml.Document
import NodeAgent.Toml.Scalar
import NodeAgent.Transport.Command
import NodeAgent.Url.Basic
import NodeAgent.Url.Host
import NodeAgent.Url.HostTable
import NodeAgent.Url.Parser
import NodeAgent.Url.Percent
import NodeAgent.Url.Punycode
import NodeAgent.Xml.Chars
import NodeAgent.Xml.Document
import NodeAgent.Xml.Text
