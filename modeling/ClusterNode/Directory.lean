import ClusterNode.Peer

/-!
# The directory of peers

All peers ever created, by number, and the list that readers see. A new list is published as a whole
and gets the next edition number; the old one is not changed.
-/

namespace ClusterNode

abbrev PeerId := Nat

structure Directory where
  peers : List Peer
  published : List PeerId
  edition : Nat

namespace Directory

/-- No peers; the empty list counts as the first edition. -/
def empty : Directory := { peers := [], published := [], edition := 0 }

def peer? (d : Directory) (id : PeerId) : Option Peer := d.peers[id]?

def resolve (d : Directory) (ids : List PeerId) : List Peer := ids.filterMap d.peer?

def snapshot (d : Directory) : List Peer := d.resolve d.published

def local? (d : Directory) : Option Peer := d.snapshot.find? Peer.isSelf

def add (d : Directory) (p : Peer) : Directory × PeerId :=
  ({ d with peers := d.peers ++ [p] }, d.peers.length)

def modify (d : Directory) (id : PeerId) (f : Peer -> Peer) : Directory :=
  { d with peers := d.peers.modify id f }

def close (d : Directory) (id : PeerId) : Directory := d.modify id Peer.close

def publish (d : Directory) (ids : List PeerId) : Directory :=
  { d with published := ids, edition := d.edition + 1 }

def isCreated (d : Directory) (id : PeerId) : Bool :=
  match d.peer? id with
  | some p => p.state == .created
  | none => false

def isRemote (d : Directory) (id : PeerId) : Bool :=
  match d.peer? id with
  | some p => !p.isSelf
  | none => false

/-!
## Text
-/

def addressDebug (a : Address) : String :=
  "Address \x7b host: " ++ Text.quoted a.host ++ ", port: " ++ toString a.port.toNat ++
    ", is_internal: " ++ toString a.isInternal ++ ", is_self: " ++ toString a.isSelf ++ " \x7d"

def debugText (d : Directory) : String :=
  "PeerDirectory \x7b peers: " ++
    Text.bracketed (d.snapshot.map fun p => addressDebug p.address) ++ " \x7d"

def snapshotDebug (d : Directory) : String :=
  Text.bracketed (d.snapshot.map Peer.debugText)

/-!
## Views
-/

theorem peer?_modify_same (d : Directory) (id : PeerId) (f : Peer -> Peer) :
    (d.modify id f).peer? id = (d.peer? id).map f := by
  simp [modify, peer?]

theorem peer?_modify_ne (d : Directory) {id other : PeerId} (f : Peer -> Peer) (h : id ≠ other) :
    (d.modify id f).peer? other = d.peer? other := by
  simp [modify, peer?, h]

end Directory
end ClusterNode
