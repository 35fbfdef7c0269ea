import ContainerFleet.Command.Arguments
import ContainerFleet.Command.Help
import ContainerFleet.Command.Option
import ContainerFleet.Command.Run
import ContainerFleet.Command.World
import ContainerFleet.Config.Basic
import ContainerFleet.Config.Environment
import ContainerFleet.Config.File
import ContainerFleet.Config.Machine
import ContainerFleet.Container.Record
import ContainerFleet.Container.Spec
import ContainerFleet.Daemon.Call
import ContainerFleet.Daemon.Error
import ContainerFleet.Daemon.Fault
import ContainerFleet.Daemon.Memory
import ContainerFleet.Docker.Client
import ContainerFleet.Docker.Schema
import ContainerFleet.Docker.Script
import ContainerFleet.Docker.Spec
import ContainerFleet.Duration.Basic
import ContainerFleet.Duration.Text
import ContainerFleet.Duration.Unit
import ContainerFleet.Error
import ContainerFleet.FilePath
import ContainerFleet.Files
import ContainerFleet.Host.Connection
import ContainerFleet.Host.Fleet
import ContainerFleet.Host.Kind
import ContainerFleet.Host.Listing
import ContainerFleet.Host.Registry
import ContainerFleet.Host.Route
import ContainerFleet.Host.Script
import ContainerFleet.Host.Service
import ContainerFleet.Host.Session
import ContainerFleet.Http.Network
import ContainerFleet.Http.Url
import ContainerFleet.Json.Basic
import ContainerFleet.Json.Reader
import ContainerFleet.Json.Record
import ContainerFleet.Json.Shape
import ContainerFleet.Json.Writer
import ContainerFleet.Label
import ContainerFleet.Main
import ContainerFleet.Map
import ContainerFleet.Number.Binary64
import ContainerFleet.Policy
import ContainerFleet.Program
import ContainerFleet.Proofs.Command.Handover
import ContainerFleet.Proofs.Command.Hosts
import ContainerFleet.Proofs.Command.NotifyOnly
import ContainerFleet.Proofs.Command.Parallel
import ContainerFleet.Proofs.Command.Success
import ContainerFleet.Proofs.Config.Saved
import ContainerFleet.Proofs.Daemon.Conduct
import ContainerFleet.Proofs.Daemon.Containers
import ContainerFleet.Proofs.Daemon.Identity
import ContainerFleet.Proofs.Daemon.Service
import ContainerFleet.Proofs.Disk
import ContainerFleet.Proofs.Disk.Writable
import ContainerFleet.Proofs.Docker.Creation
import ContainerFleet.Proofs.Docker.Inspection
import ContainerFleet.Proofs.Docker.Recreation
import ContainerFleet.Proofs.Docker.Stop
import ContainerFleet.Proofs.Duration
import ContainerFleet.Proofs.FilePath
import ContainerFleet.Proofs.Host.Change
import ContainerFleet.Proofs.Host.Connecting
import ContainerFleet.Proofs.Host.Default
import ContainerFleet.Proofs.Host.Leak
import ContainerFleet.Proofs.Host.Operation
import ContainerFleet.Proofs.Host.Registered
import ContainerFleet.Proofs.Host.Resources
import ContainerFleet.Proofs.Host.Roster
import ContainerFleet.Proofs.Host.Scripted
import ContainerFleet.Proofs.Host.Selection
import ContainerFleet.Proofs.Host.Start
import ContainerFleet.Proofs.Json
import ContainerFleet.Proofs.Json.Duration
import ContainerFleet.Proofs.Json.Same
import ContainerFleet.Proofs.Json.Shape
import ContainerFleet.Proofs.Label
import ContainerFleet.Proofs.Label.Independence
import ContainerFleet.Proofs.Label.Kind
import ContainerFleet.Proofs.Map
import ContainerFleet.Proofs.Program.Conduct
import ContainerFleet.Proofs.Program.Conversation
import ContainerFleet.Proofs.Program.Together
import ContainerFleet.Proofs.Program.Trace
import ContainerFleet.Proofs.Replacement.Aftermath
import ContainerFleet.Proofs.Replacement.Continuity
import ContainerFleet.Proofs.Replacement.Image
import ContainerFleet.Proofs.Replacement.Name
import ContainerFleet.Proofs.Replacement.Protocol
import ContainerFleet.Proofs.Replacement.Restored
import ContainerFleet.Proofs.Replacement.Retry
import ContainerFleet.Proofs.Rounding
import ContainerFleet.Proofs.Store.Agreement
import ContainerFleet.Proofs.Store.Atomicity
import ContainerFleet.Proofs.Store.Effect
import ContainerFleet.Proofs.Store.File
import ContainerFleet.Proofs.Store.Sharing
import ContainerFleet.Proofs.Store.Steps
import ContainerFleet.Proofs.Text.Blank
import ContainerFleet.Proofs.Timestamp
import ContainerFleet.Proofs.Toml.Document
import ContainerFleet.Proofs.Toml.Statement
import ContainerFleet.Proofs.Toml.Text
import ContainerFleet.Proofs.Toml.Value
import ContainerFleet.Proofs.Update.Abort
import ContainerFleet.Proofs.Update.Calm
import ContainerFleet.Proofs.Update.Cancellation
import ContainerFleet.Proofs.Update.Convergence
import ContainerFleet.Proofs.Update.Frame
import ContainerFleet.Proofs.Update.Guard
import ContainerFleet.Proofs.Update.Handling
import ContainerFleet.Proofs.Update.Handover
import ContainerFleet.Proofs.Update.Health
import ContainerFleet.Proofs.Update.Independence
import ContainerFleet.Proofs.Update.Lookup
import ContainerFleet.Proofs.Update.Parts
import ContainerFleet.Proofs.Update.Pruning
import ContainerFleet.Proofs.Update.Pulling
import ContainerFleet.Proofs.Update.Recording
import ContainerFleet.Proofs.Update.Requests
import ContainerFleet.Proofs.Update.Run
import ContainerFleet.Proofs.Update.Scene
import ContainerFleet.Proofs.Update.SelfUpdate
import ContainerFleet.Proofs.Update.Staleness
import ContainerFleet.Proofs.Update.Truth
import ContainerFleet.Proofs.Update.Verdict
import ContainerFleet.Proofs.Update.Visits
import ContainerFleet.Store.Any
import ContainerFleet.Store.Call
import ContainerFleet.Store.File
import ContainerFleet.Store.Memory
import ContainerFleet.Text.Blank
import ContainerFleet.Text.Decimal
import ContainerFleet.Text.Printable
import ContainerFleet.Text.Table
import ContainerFleet.Text.Width
import ContainerFleet.Timestamp.Basic
import ContainerFleet.Timestamp.Moment
import ContainerFleet.Timestamp.Text
import ContainerFleet.Toml.Lexeme
import ContainerFleet.Toml.Reader
import ContainerFleet.Toml.Section
import ContainerFleet.Toml.Value
import ContainerFleet.Toml.Writer
import ContainerFleet.Update.Classification
import ContainerFleet.Update.Health
import ContainerFleet.Update.Replacement
import ContainerFleet.Update.Report
import ContainerFleet.Update.Request
import ContainerFleet.Update.Run
import ContainerFleet.Update.Sidecar
import ContainerFleet.Update.Staleness
import ContainerFleet.Update.Tasks
import ContainerFleet.Update.World
