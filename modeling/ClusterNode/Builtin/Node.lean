import ClusterNode.Membership
import ClusterNode.Net.Endpoint
import ClusterNode.Reconciler.Task

/-!
# A node at work

The state that the built-in modules share: the membership, the reconciler once the core module has
started, and the recurring task once all modules have. What surrounds a node is fixed for its life:
the source of its membership, the host of its machine, and the answers of the network.
-/

namespace ClusterNode

structure MembershipSource (β : Type) where
  query : β -> β × Except ClusterError (List Address) × List Signal
  register : β -> Address -> β × Except ClusterError Unit × List Signal

structure Surroundings (β : Type) where
  source : MembershipSource β
  machineHost : String
  /-- Whether an exporter can listen there; if not, what the system says. -/
  listen : Net.Endpoint -> Except String Unit
  connect : PeerId -> Address -> Except ClusterError Channel

structure Node (β : Type) where
  members : β
  reconciler : Option Reconciler
  task : Option RecurringTask
  signals : List Signal

def Membership.source (read : FileReader) : MembershipSource Membership where
  query m :=
    let (result, signals) := m.query read
    (m, result, signals)
  register m address := m.register read address

namespace Effect

/-- What an effect shows to the outside, with the health of the cluster as a gauge. -/
def shown (healthName : String) : Effect -> List Signal
  | .signal s => [s]
  | .health report => HealthGauge.signals healthName report
  | _ => []

end Effect

namespace Node

variable {β : Type}

def start (members : β) : Node β :=
  { members, reconciler := none, task := none, signals := [] }

def note (node : Node β) (signals : List Signal) : Node β :=
  { node with signals := node.signals ++ signals }

def noteEffects (node : Node β) (effects : List Effect) : Node β :=
  node.note (effects.flatMap (Effect.shown "cluster"))

/-- The peers that readers see; there are none before the core module has started. -/
def peers (node : Node β) : List Peer :=
  match node.reconciler with
  | some r => r.directory.snapshot
  | none => []

def query (s : Surroundings β) (node : Node β) : Node β × Except ClusterError (List Address) :=
  let (members, result, signals) := s.source.query node.members
  ({ node with members }.note signals, result)

/-- Announces an address through a reconciler, which is returned with it if it was accepted. -/
def register (s : Surroundings β) (node : Node β) (r : Reconciler) (address : Address) :
    Node β × Except ClusterError Reconciler :=
  let target := r.announced address
  let (members, result, signals) := s.source.register node.members target
  let (r, effects) := r.registered target result
  (({ node with members }.note signals).noteEffects effects, result.map fun _ => r)

/-- Begins the run that is due, if there is one, and takes it to its end. -/
def tick (s : Surroundings β) (now : Time) (node : Node β) : Node β :=
  match node.task, node.reconciler with
  | some task, some r =>
      let id := r.runs.length
      let (task, r, begun) := task.tick now r
      if r.runs.length = id then node
      else
        let (node, result) := node.query s
        let (r, driven) := r.drive id result s.connect
        { node with task := some (task.settle r), reconciler := some r }.noteEffects
          (begun ++ driven)
  | _, _ => node

def stopTask (node : Node β) : Node β :=
  match node.task, node.reconciler with
  | some task, some r =>
      let (task, r) := task.stop r
      { node with task := some task, reconciler := some r }
  | _, _ => { node with task := none }

end Node
end ClusterNode
