import ClusterNode.Net.Ip
import ClusterNode.Text.Lowercase

/-!
# Member addresses

The address of a cluster member: a host and a port. Two marks travel with it, whether it is the
address of this node and whether it is meant for traffic inside the cluster only; neither takes part
in identity or order. Addresses are ordered by host, character by character, and then by port.
-/

namespace ClusterNode

structure Address where
  host : String
  port : UInt16
  isInternal : Bool := false
  isSelf : Bool := false
  deriving DecidableEq, Repr

namespace Address

def key (a : Address) : String × UInt16 := (a.host, a.port)

def same (a b : Address) : Bool := a.key == b.key

def compare (a b : Address) : Ordering :=
  (Ord.compare a.host b.host).then (Ord.compare a.port b.port)

def precedes (a b : Address) : Bool := a.compare b == .lt

/-- The order of a sorted list: equal addresses may stand in either order. -/
def atMost (a b : Address) : Bool := a.compare b != .gt

def withSelf (a : Address) (isSelf : Bool) : Address := { a with isSelf }

def withInternal (a : Address) (isInternal : Bool) : Address := { a with isInternal }

/-- A host with a colon stands in brackets. -/
def toText (a : Address) : String :=
  if ':' ∈ a.host.toList then "[" ++ a.host ++ "]:" ++ toString a.port.toNat
  else a.host ++ ":" ++ toString a.port.toNat

def isLoopback (a : Address) : Bool :=
  Text.asciiLower a.host == "localhost" || Net.isLoopbackText a.host.toList

def sort (addresses : List Address) : List Address :=
  addresses.mergeSort atMost

/-!
## Marks
-/

@[simp] theorem key_withSelf (a : Address) (b : Bool) : (a.withSelf b).key = a.key := rfl

@[simp] theorem isSelf_withSelf (a : Address) (b : Bool) : (a.withSelf b).isSelf = b := rfl

theorem same_iff (a b : Address) : a.same b = true <-> a.key = b.key := by
  simp [same]

end Address
end ClusterNode
