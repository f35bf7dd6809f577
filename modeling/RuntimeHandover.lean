import RuntimeHandover.Bootstrap.Config
import RuntimeHandover.Bootstrap.Run
import RuntimeHandover.Cluster.Access
import RuntimeHandover.Cluster.Answer
import RuntimeHandover.Cluster.Api
import RuntimeHandover.Cluster.Certificate
import RuntimeHandover.Cluster.Record
import RuntimeHandover.CommandLine.Flags
import RuntimeHandover.CommandLine.LogFilter
import RuntimeHandover.CommandLine.Program
import RuntimeHandover.Container.DockerCli
import RuntimeHandover.Container.Engine
import RuntimeHandover.Container.Install
import RuntimeHandover.Container.Roster
import RuntimeHandover.Container.Spec
import RuntimeHandover.Failure
import RuntimeHandover.Files.Disk
import RuntimeHandover.Files.Fault
import RuntimeHandover.Files.Path
import RuntimeHandover.Files.Tree
import RuntimeHandover.Http.Fields
import RuntimeHandover.Http.Get
import RuntimeHandover.Http.Message
import RuntimeHandover.Http.Status
import RuntimeHandover.Http.Uri
import RuntimeHandover.Json.Fault
import RuntimeHandover.Json.Machine
import RuntimeHandover.Json.Mark
import RuntimeHandover.Json.Parser
import RuntimeHandover.Json.Printer
import RuntimeHandover.Json.Scan
import RuntimeHandover.Json.Skip
import RuntimeHandover.Json.Typed
import RuntimeHandover.Json.Value
import RuntimeHandover.Kubelet.Address
import RuntimeHandover.Kubelet.Backup
import RuntimeHandover.Kubelet.Configuration
import RuntimeHandover.Kubelet.Introspection
import RuntimeHandover.Kubelet.LiveConfig
import RuntimeHandover.Kubelet.Node
import RuntimeHandover.Kubelet.Overrides
import RuntimeHandover.Kubelet.Patch
import RuntimeHandover.Main
import RuntimeHandover.Rehearsal.Docker
import RuntimeHandover.Rehearsal.Host
import RuntimeHandover.Rehearsal.Network
import RuntimeHandover.Rehearsal.Setup
import RuntimeHandover.Rehearsal.World
import RuntimeHandover.Settings.Basic
import RuntimeHandover.Settings.LogFile
import RuntimeHandover.Settings.LogLevel
import RuntimeHandover.Settings.Reader
import RuntimeHandover.Socket.Readiness
import RuntimeHandover.Text.Alphanumeric
import RuntimeHandover.Text.Armor
import RuntimeHandover.Text.Base64
import RuntimeHandover.Text.Blank
import RuntimeHandover.Text.Combining
import RuntimeHandover.Text.Composed
import RuntimeHandover.Text.Direction
import RuntimeHandover.Text.Duration
import RuntimeHandover.Text.Hex
import RuntimeHandover.Text.Joining
import RuntimeHandover.Text.Pattern
import RuntimeHandover.Text.Printable
import RuntimeHandover.Text.Quoted
import RuntimeHandover.Text.Shortest
import RuntimeHandover.Text.Table
import RuntimeHandover.Text.Timestamp
import RuntimeHandover.Text.Utf8
import RuntimeHandover.Url.Basic
import RuntimeHandover.Url.Domain
import RuntimeHandover.Url.Host
import RuntimeHandover.Url.Mapped
import RuntimeHandover.Url.Parser
import RuntimeHandover.Url.Percent
import RuntimeHandover.Url.Punycode
import RuntimeHandover.Proofs.Act
import RuntimeHandover.Proofs.Bootstrap.Effects
import RuntimeHandover.Proofs.Bootstrap.Course
import RuntimeHandover.Proofs.Bootstrap.Gating
import RuntimeHandover.Proofs.Bootstrap.Containers
import RuntimeHandover.Proofs.Bootstrap.Outcome
import RuntimeHandover.Proofs.Rehearsal.World
import RuntimeHandover.Proofs.Json.Tokens
import RuntimeHandover.Proofs.Json.Layout
import RuntimeHandover.Proofs.Json.Written
import RuntimeHandover.Proofs.Json.RoundTrip
import RuntimeHandover.Proofs.Json.Image
import RuntimeHandover.Proofs.Files.Private
import RuntimeHandover.Proofs.Text.Utf8
import RuntimeHandover.Proofs.Kubelet.LiveConfig
import RuntimeHandover.Proofs.Files.Document
import RuntimeHandover.Proofs.Bootstrap.Publishing
import RuntimeHandover.Proofs.Kubelet.Introspection
import RuntimeHandover.Proofs.Cluster.Record
import RuntimeHandover.Proofs.Rehearsal.Agreement
import RuntimeHandover.Proofs.Files.Path
import RuntimeHandover.Proofs.Files.Way
import RuntimeHandover.Proofs.Rehearsal.Settled
import RuntimeHandover.Proofs.Bootstrap.Installs
import RuntimeHandover.Proofs.Bootstrap.Recovery
import RuntimeHandover.Proofs.Bootstrap.Backups
import RuntimeHandover.Proofs.Container.Session
import RuntimeHandover.Proofs.CommandLine.Gates
import RuntimeHandover.Proofs.Files.Atomic
import RuntimeHandover.Proofs.Bootstrap.Retry
import RuntimeHandover.Proofs.Container.CreateLine
import RuntimeHandover.Proofs.Bootstrap.FailedInstalls
import RuntimeHandover.Proofs.Kubelet.Patch
import RuntimeHandover.Proofs.Socket.Readiness
import RuntimeHandover.Proofs.Container.Reasons
import RuntimeHandover.Proofs.Json.Begins
import RuntimeHandover.Proofs.Json.Grammar
import RuntimeHandover.Proofs.Kubelet.Answers
import RuntimeHandover.Proofs.Json.Plain
import RuntimeHandover.Proofs.Json.Typed
import RuntimeHandover.Proofs.Kubelet.Configuration
import RuntimeHandover.Proofs.Text.Words
import RuntimeHandover.Proofs.CommandLine.Overriding
import RuntimeHandover.Proofs.Json.Passing
import RuntimeHandover.Proofs.Json.Accepted
import RuntimeHandover.Proofs.Json.Structure
import RuntimeHandover.Proofs.Settings.Defaults
import RuntimeHandover.Proofs.Abreast
import RuntimeHandover.Proofs.Bootstrap.Alike
import RuntimeHandover.Proofs.Bootstrap.Reached
import RuntimeHandover.Proofs.Files.Veil
import RuntimeHandover.Proofs.Rehearsal.Scene
import RuntimeHandover.Proofs.Rehearsal.Veil
import RuntimeHandover.Proofs.Rehearsal.MemberOrder
import RuntimeHandover.Proofs.CommandLine.Logging
import RuntimeHandover.Proofs.Container.Listing
import RuntimeHandover.Proofs.Container.Mounts
import RuntimeHandover.Proofs.Url.Ipv4
import RuntimeHandover.Proofs.Url.Base
import RuntimeHandover.Proofs.Kubelet.Address
import RuntimeHandover.Proofs.Files.Steps
import RuntimeHandover.Proofs.Files.Enter
import RuntimeHandover.Proofs.Files.Parents
import RuntimeHandover.Proofs.Files.Room
import RuntimeHandover.Proofs.Files.Writable
