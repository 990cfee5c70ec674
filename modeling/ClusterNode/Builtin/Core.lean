import ClusterNode.Builtin.Cluster
import ClusterNode.Builtin.Telemetry
import ClusterNode.Settings.Core

/-!
# The core module

Owns this node's view of the cluster. It offers the directory and the selector, registers the node
when its role asks for it, and keeps the directory up to date by a recurring task from the moment
when all modules have started until it is stopped.
-/

namespace ClusterNode
namespace CoreModule

variable {β : Type}

def moduleName : String := "core"

def prepare (settings : CoreSettings) (node : Node β) : Preparation (Node β) Service :=
  match Selector.ofText settings.peerSelector with
  | .error e => .ended node (.error (Failure.ofText e.message))
  | .ok selector =>
      Preparation.registerAll node (.ended node (.ok ()))
        (Service.offered [.directory, .selector selector])

def reconciler (settings : CoreSettings) : Reconciler :=
  Reconciler.create settings.internalAddress? (NodeHealth.check settings.role.registersSelf)

/-- The services that have to be there before the core module starts. -/
def lookUp (view : ModulesView Service) : Except ModuleError Unit := do
  let _ ← view.service ClusterModule.moduleName .membership
  let _ ← view.service TelemetryModule.moduleName .exporter

/-- Creates the reconciler, and registers the node when its role asks for it. -/
def enter (s : Surroundings β) (settings : CoreSettings) (node : Node β) :
    Node β × Except Failure Unit :=
  if settings.role.registersSelf then
    match node.register s (reconciler settings) (settings.advertised s.machineHost) with
    | (node, .ok r) => ({ node with reconciler := some r }, .ok ())
    | (node, .error e) =>
        (node, .error (e.toFailure.within "failed to register this node to the cluster"))
  else ({ node with reconciler := some (reconciler settings) }, .ok ())

def start (s : Surroundings β) (settings : CoreSettings) (view : ModulesView Service)
    (node : Node β) : Node β × Except Failure Unit :=
  match lookUp view with
  | .error e => (node, .error e.toFailure)
  | .ok () => enter s settings node

def afterAllStarted (settings : CoreSettings) (node : Node β) : Node β × Except Failure Unit :=
  match node.reconciler with
  | none =>
      (node, .error (Failure.ofText "the reconciler is created when the core module starts"))
  | some _ =>
      let interval := Time.seconds settings.refreshPeriodSecs
      ({ node with task := some (RecurringTask.start interval 0) }.note
        (Pace.warning? interval).toList, .ok ())

def stop (node : Node β) : Node β × Except Failure Unit := (node.stopTask, .ok ())

def provider (s : Surroundings β) (settings : CoreSettings) : BuiltinProvider β :=
  { name := "default", moduleName
    requires := [ClusterModule.moduleName, TelemetryModule.moduleName]
    promises := [.directory, .selector]
    prepare := fun _ => prepare settings
    start := start s settings
    afterAllStarted := fun _ => afterAllStarted settings
    stop := stop }

end CoreModule
end ClusterNode
