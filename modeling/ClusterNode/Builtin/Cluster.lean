import ClusterNode.Builtin.Service

/-!
# The cluster module

Offers the membership of the node. Its providers differ in where the members come from: a standalone
node is alone, a static cluster is listed in the configuration. A static membership is queried once
at the start, so that one that cannot be read keeps the node from starting.
-/

namespace ClusterNode
namespace ClusterModule

def moduleName : String := "cluster"

def prepare (m : Membership) (node : Node Membership) : Preparation (Node Membership) Service :=
  let node := { node with members := m }
  Preparation.registerAll node (.ended node (.ok ())) (Service.offered [.membership])

def standalone : BuiltinProvider Membership :=
  { name := "standalone", moduleName, requires := [], promises := [.membership]
    prepare := fun _ => prepare (.standalone none)
    start := fun _ node => (node, .ok ())
    afterAllStarted := fun _ node => (node, .ok ())
    stop := fun node => (node, .ok ()) }

def startFixed (s : Surroundings Membership) (node : Node Membership) :
    Node Membership × Except Failure Unit :=
  match node.query s with
  | (node, .ok _) => (node, .ok ())
  | (node, .error e) => (node, .error e.toFailure)

def fixed (s : Surroundings Membership) (m : FixedMembers) : BuiltinProvider Membership :=
  { name := "static", moduleName, requires := [], promises := [.membership]
    prepare := fun _ => prepare (.fixed m)
    start := fun _ => startFixed s
    afterAllStarted := fun _ node => (node, .ok ())
    stop := fun node => (node, .ok ()) }

end ClusterModule
end ClusterNode
