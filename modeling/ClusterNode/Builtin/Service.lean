import ClusterNode.Builtin.Node
import ClusterNode.Selector
import ClusterNode.Startup.Provider

/-!
# Services of the built-in modules

What the built-in modules offer to each other. The membership and the directory stand for their
state in the node; the selector and the exporter are values.
-/

namespace ClusterNode

inductive ExporterKind
  | prometheus
  | none
  deriving DecidableEq, Repr

/-- Which exporter the metrics go to, and where it is scraped if it serves. -/
structure MetricsExporter where
  kind : ExporterKind
  listen : Option Net.Endpoint
  deriving DecidableEq, Repr

inductive Service
  | membership
  | directory
  | selector (selector : Selector)
  | exporter (exporter : MetricsExporter)
  deriving DecidableEq, Repr

namespace ExporterKind

def name : ExporterKind -> String
  | prometheus => "prometheus"
  | none => "none"

end ExporterKind

namespace MetricsExporter

def isEnabled (e : MetricsExporter) : Bool := e.kind != .none

end MetricsExporter

namespace Capability

def membership : Capability := { typeName := "dyn tessera_core::membership::ClusterMembership" }

def directory : Capability := { typeName := "tessera_core::directory::PeerDirectory" }

def selector : Capability := { typeName := "tessera_core::selector::PeerSelector" }

def exporter : Capability := { typeName := "tessera_server::modules::telemetry::MetricsExporter" }

end Capability

namespace Service

def capability : Service -> Capability
  | membership => .membership
  | directory => .directory
  | selector _ => .selector
  | exporter _ => .exporter

def offered (services : List Service) : List (Capability × Service) :=
  services.map fun s => (s.capability, s)

end Service

def ClusterError.toFailure (e : ClusterError) : Failure :=
  { text := e.message, reasons := e.cause?.toList }

/-- A provider of a built-in module; what surrounds the node is known to all its hooks. -/
abbrev BuiltinProvider (β : Type) := Provider (Node β) Service

end ClusterNode
