import ClusterNode.Address
import ClusterNode.Address.Parser
import ClusterNode.Builtin.Boot
import ClusterNode.Builtin.Catalog
import ClusterNode.Builtin.Cluster
import ClusterNode.Builtin.Core
import ClusterNode.Builtin.Node
import ClusterNode.Builtin.Service
import ClusterNode.Builtin.Telemetry
import ClusterNode.ClusterError
import ClusterNode.Config.Conversion
import ClusterNode.Config.Document
import ClusterNode.Config.Environment
import ClusterNode.Config.Integer
import ClusterNode.Config.KeyPath
import ClusterNode.Config.Overlay
import ClusterNode.Config.Value
import ClusterNode.Directory
import ClusterNode.Files
import ClusterNode.Health
import ClusterNode.Json.Basic
import ClusterNode.Json.Reader
import ClusterNode.Launch.CommandLine
import ClusterNode.Launch.Configuration
import ClusterNode.Launch.Logging
import ClusterNode.Launch.ShutdownSignal
import ClusterNode.Main
import ClusterNode.Membership
import ClusterNode.Net.Endpoint
import ClusterNode.Net.Ip
import ClusterNode.Number.Binary64
import ClusterNode.Number.Decimal
import ClusterNode.Peer
import ClusterNode.Proofs.Address.Display
import ClusterNode.Proofs.Address.Order
import ClusterNode.Proofs.Builtin.Bystanders
import ClusterNode.Proofs.Builtin.Life
import ClusterNode.Proofs.Builtin.Role
import ClusterNode.Proofs.Builtin.Work
import ClusterNode.Proofs.Membership.Display
import ClusterNode.Proofs.Membership.Notations
import ClusterNode.Proofs.Membership.Registration
import ClusterNode.Proofs.Net.Ipv6
import ClusterNode.Proofs.Peer.Connection
import ClusterNode.Proofs.Reconciler.Agreement
import ClusterNode.Proofs.Reconciler.Asks
import ClusterNode.Proofs.Reconciler.Attempts
import ClusterNode.Proofs.Reconciler.Connectors
import ClusterNode.Proofs.Reconciler.Diff
import ClusterNode.Proofs.Reconciler.Directory
import ClusterNode.Proofs.Reconciler.FastPath
import ClusterNode.Proofs.Reconciler.Fruitless
import ClusterNode.Proofs.Reconciler.History
import ClusterNode.Proofs.Reconciler.Identity
import ClusterNode.Proofs.Reconciler.Ledger
import ClusterNode.Proofs.Reconciler.Likeness
import ClusterNode.Proofs.Reconciler.Links
import ClusterNode.Proofs.Reconciler.LocalPeer
import ClusterNode.Proofs.Reconciler.Lock
import ClusterNode.Proofs.Reconciler.Lockstep
import ClusterNode.Proofs.Reconciler.Overlap
import ClusterNode.Proofs.Reconciler.Pacing
import ClusterNode.Proofs.Reconciler.Parallel
import ClusterNode.Proofs.Reconciler.Progress
import ClusterNode.Proofs.Reconciler.Queue
import ClusterNode.Proofs.Reconciler.Record
import ClusterNode.Proofs.Reconciler.Report
import ClusterNode.Proofs.Reconciler.SelfAddress
import ClusterNode.Proofs.Reconciler.Share
import ClusterNode.Proofs.Reconciler.Standalone
import ClusterNode.Proofs.Reconciler.Stop
import ClusterNode.Proofs.Reconciler.Topology
import ClusterNode.Proofs.Reconciler.Turn
import ClusterNode.Proofs.Reconciler.Verdict
import ClusterNode.Proofs.Selector.Rolling
import ClusterNode.Proofs.Settings.OwnAddress
import ClusterNode.Proofs.Startup.Cycles
import ClusterNode.Proofs.Startup.Discovery
import ClusterNode.Proofs.Startup.Lifecycle
import ClusterNode.Proofs.Startup.Loading
import ClusterNode.Proofs.Startup.Passes
import ClusterNode.Proofs.Startup.Registration
import ClusterNode.Proofs.Startup.Requests
import ClusterNode.Proofs.Startup.Requirements
import ClusterNode.Proofs.Startup.Sequence
import ClusterNode.Proofs.Startup.Services
import ClusterNode.Proofs.Startup.Shutdown
import ClusterNode.Reconciler.Run
import ClusterNode.Reconciler.Task
import ClusterNode.Reconciler.Topology
import ClusterNode.Selector
import ClusterNode.Settings.Core
import ClusterNode.Settings.Members
import ClusterNode.Settings.Scrape
import ClusterNode.Signal
import ClusterNode.Simulation.Clock
import ClusterNode.Simulation.Connector
import ClusterNode.Simulation.PeerScene
import ClusterNode.Simulation.ReconcilerScene
import ClusterNode.Simulation.ScriptedProvider
import ClusterNode.Startup.Application
import ClusterNode.Startup.Catalog
import ClusterNode.Startup.Error
import ClusterNode.Startup.Manager
import ClusterNode.Startup.Order
import ClusterNode.Startup.Provider
import ClusterNode.Startup.Registry
import ClusterNode.Text.Blank
import ClusterNode.Text.CaseTable
import ClusterNode.Text.Lowercase
import ClusterNode.Text.PrintableTable
import ClusterNode.Text.Quoted
import ClusterNode.Text.Split
import ClusterNode.Time
import ClusterNode.Transport
