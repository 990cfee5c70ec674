import ClusterNode.Builtin.Catalog

/-!
# A booted node

A node after its modules have been loaded and started, with the answer of the startup. The first run
of the reconciler is due at once. A look at the services works as far as the startup came.
-/

namespace ClusterNode

structure Booted where
  surroundings : Surroundings Membership
  manager : Manager (Node Membership) Service
  node : Node Membership
  outcome : Except ModuleError Unit

namespace Booted

def boot (s : Surroundings Membership) (application : Application) : Booted :=
  let (manager, lived) :=
    Manager.create.init application (Builtin.catalog s) (Node.start (.standalone none))
  { surroundings := s, manager, node := lived.world, outcome := lived.result }

def tick (b : Booted) (now : Time) : Booted :=
  { b with node := b.node.tick b.surroundings now }

/-- Looks up a service of a module. -/
def look {α : Type} (b : Booted) (moduleName : String) (c : Capability)
    (view : Service -> Option α) : Except ModuleError α := do
  let service ← b.manager.service moduleName c
  match view service with
  | some a => return a
  | none => throw (.serviceNotProvided moduleName c)

def peers (b : Booted) : Except ModuleError (List Peer) :=
  b.look CoreModule.moduleName .directory fun
    | .directory => some b.node.peers
    | _ => none

def selector (b : Booted) : Except ModuleError Selector :=
  b.look CoreModule.moduleName .selector fun
    | .selector s => some s
    | _ => none

def exporter (b : Booted) : Except ModuleError MetricsExporter :=
  b.look TelemetryModule.moduleName .exporter fun
    | .exporter e => some e
    | _ => none

def members (b : Booted) : Booted × Except ModuleError (Except ClusterError (List Address)) :=
  match b.manager.service ClusterModule.moduleName .membership with
  | .error e => (b, .error e)
  | .ok _ =>
      let (node, result) := b.node.query b.surroundings
      ({ b with node }, .ok result)

def shutdown (b : Booted) : Booted :=
  let (node, _, warnings) := b.manager.shutdown b.node
  { b with node := node.note (warnings.map fun e => .warning e.message) }

end Booted
end ClusterNode
