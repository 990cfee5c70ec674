import ClusterNode.Directory

/-!
# Topology of the cluster

From a query answer to the next list of peers. The answer is normalised: the first of several equal
addresses counts, the address of this node is marked, and the result is sorted. If it names the
published peers, nothing changes. Otherwise a new list takes over each published peer that has the
same address and mark, and creates the others.
-/

namespace ClusterNode
namespace Topology

def distinctFrom (seen : List (String × UInt16)) : List Address -> List Address
  | [] => []
  | a :: rest =>
      if a.key ∈ seen then distinctFrom seen rest
      else a :: distinctFrom (a.key :: seen) rest

def distinct (addresses : List Address) : List Address := distinctFrom [] addresses

def isRegistered (selfAddress : Option Address) (a : Address) : Bool :=
  match selfAddress with
  | some s => s.same a
  | none => false

def normalize (selfAddress : Option Address) (queried : List Address) : List Address :=
  Address.sort ((distinct queried).map fun a => a.withSelf (isRegistered selfAddress a))

/-- A peer stands for an address with the same mark. -/
def stands (p : Peer) (a : Address) : Bool :=
  p.address.same a && p.isSelf == a.isSelf

def sameTopology : List Peer -> List Address -> Bool
  | [], [] => true
  | p :: peers, a :: addresses => stands p a && sameTopology peers addresses
  | _, _ => false

structure Draft where
  directory : Directory
  next : List PeerId
  created : Nat
  kept : Nat

def existing? (d : Directory) (current : List PeerId) (a : Address) : Option PeerId :=
  current.find? fun id =>
    match d.peer? id with
    | some p => stands p a
    | none => false

/-- Puts the peer for one address at the end of the draft. -/
def Draft.place (current : List PeerId) (draft : Draft) (a : Address) : Draft :=
  match existing? draft.directory current a with
  | some id => { draft with next := draft.next ++ [id], kept := draft.kept + 1 }
  | none =>
      let (directory, id) := draft.directory.add (Peer.ofAddress a)
      { directory, next := draft.next ++ [id], created := draft.created + 1, kept := draft.kept }

def draft (d : Directory) (current : List PeerId) (addresses : List Address) : Draft :=
  addresses.foldl (Draft.place current) { directory := d, next := [], created := 0, kept := 0 }

def superseded (current next : List PeerId) : List PeerId :=
  current.filter fun id => !next.contains id

def pending (d : Directory) (ids : List PeerId) : List PeerId := ids.filter d.isCreated

/-!
## Small laws
-/

theorem key_notMem_of_mem_distinctFrom {seen : List (String × UInt16)} {addresses : List Address}
    {a : Address} (h : a ∈ distinctFrom seen addresses) : a.key ∉ seen := by
  induction addresses generalizing seen with
  | nil => simp [distinctFrom] at h
  | cons b rest ih =>
      rw [distinctFrom] at h
      split at h
      · exact ih h
      · rename_i hb
        rcases List.mem_cons.1 h with rfl | h
        · exact hb
        · exact fun hseen => ih h (List.mem_cons_of_mem _ hseen)

theorem distinctFrom_pairwise (seen : List (String × UInt16)) (addresses : List Address) :
    (distinctFrom seen addresses).Pairwise fun a b => a.key ≠ b.key := by
  induction addresses generalizing seen with
  | nil => simp [distinctFrom]
  | cons b rest ih =>
      rw [distinctFrom]
      split
      · exact ih seen
      · refine List.pairwise_cons.2 ⟨fun a ha => ?_, ih _⟩
        have := key_notMem_of_mem_distinctFrom ha
        exact fun h => this (h ▸ List.mem_cons_self)

end Topology
end ClusterNode
