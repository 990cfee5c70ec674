import ClusterNode.Address
import ClusterNode.ClusterError
import ClusterNode.Text.Quoted

/-!
# Peers

A peer is this node itself, which needs no connection, or another node with a link. A link is
created without a channel, gets one by a connect, and once closed stays closed.

A connect has two ends. It begins with a look at the link, which may end it at once or leave it to
ask a connector; when the connector answers, the link is looked at again, since others may have
connected or closed it meanwhile.
-/

namespace ClusterNode

/-- The number of the connector call that opened the channel. -/
abbrev Channel := Nat

inductive Link
  | here
  | created
  | connected (channel : Channel)
  | closed
  deriving DecidableEq, Repr

inductive ConnectionState
  | created
  | connected
  | closed
  deriving DecidableEq, Repr

structure Peer where
  address : Address
  link : Link
  deriving DecidableEq, Repr

inductive ConnectStart
  | ended (result : Except ClusterError Unit)
  | ask

namespace ConnectionState

def name : ConnectionState -> String
  | created => "Created"
  | connected => "Connected"
  | closed => "Closed"

end ConnectionState

namespace Peer

def ofSelf (address : Address) : Peer :=
  { address := address.withSelf true, link := .here }

def ofRemote (address : Address) : Peer :=
  { address := address.withSelf false, link := .created }

/-- The peer for an address, by its own mark. -/
def ofAddress (address : Address) : Peer :=
  if address.isSelf then ofSelf address else ofRemote address

def isSelf (p : Peer) : Bool := p.link == .here

def state (p : Peer) : ConnectionState :=
  match p.link with
  | .here => .connected
  | .created => .created
  | .connected _ => .connected
  | .closed => .closed

def channel? (p : Peer) : Option Channel :=
  match p.link with
  | .connected channel => some channel
  | _ => none

def closedError (p : Peer) : ClusterError := .connectionClosed p.address.toText

def beginConnect (p : Peer) : ConnectStart :=
  match p.link with
  | .here => .ended (.ok ())
  | .created => .ask
  | .connected _ => .ended (.ok ())
  | .closed => .ended (.error p.closedError)

/-- The first channel stays; a closed link takes none. -/
def finishConnect (p : Peer) : Except ClusterError Channel -> Peer × Except ClusterError Unit
  | .error e => (p, .error e)
  | .ok channel =>
      match p.link with
      | .here => (p, .ok ())
      | .created => ({ p with link := .connected channel }, .ok ())
      | .connected _ => (p, .ok ())
      | .closed => (p, .error p.closedError)

def close (p : Peer) : Peer :=
  match p.link with
  | .here => p
  | _ => { p with link := .closed }

def compare (p q : Peer) : Ordering := p.address.compare q.address

def same (p q : Peer) : Bool := p.address.same q.address

def sort (peers : List Peer) : List Peer :=
  peers.mergeSort fun p q => p.address.atMost q.address

def debugText (p : Peer) : String :=
  "PeerConnection \x7b address: " ++ Text.quoted p.address.toText ++ ", self: " ++
    toString p.isSelf ++ ", state: " ++ p.state.name ++ " \x7d"

/-!
## What the operations keep
-/

@[simp] theorem key_ofAddress (a : Address) : (ofAddress a).address.key = a.key := by
  unfold ofAddress
  split <;> rfl

@[simp] theorem isSelf_ofAddress (a : Address) : (ofAddress a).isSelf = a.isSelf := by
  unfold ofAddress
  split <;> simp_all [isSelf, ofSelf, ofRemote]

@[simp] theorem address_close (p : Peer) : p.close.address = p.address := by
  obtain ⟨a, l⟩ := p
  cases l <;> rfl

@[simp] theorem isSelf_close (p : Peer) : p.close.isSelf = p.isSelf := by
  obtain ⟨a, l⟩ := p
  cases l <;> rfl

@[simp] theorem close_close (p : Peer) : p.close.close = p.close := by
  obtain ⟨a, l⟩ := p
  cases l <;> rfl

@[simp] theorem address_finishConnect (p : Peer) (answer : Except ClusterError Channel) :
    (p.finishConnect answer).1.address = p.address := by
  obtain ⟨a, l⟩ := p
  cases answer <;> cases l <;> rfl

@[simp] theorem isSelf_finishConnect (p : Peer) (answer : Except ClusterError Channel) :
    (p.finishConnect answer).1.isSelf = p.isSelf := by
  obtain ⟨a, l⟩ := p
  cases answer <;> cases l <;> rfl

end Peer
end ClusterNode
