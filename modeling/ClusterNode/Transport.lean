import ClusterNode.Peer

/-!
# The transport to other nodes

A channel is opened at a URI made of the address. A host that no URI may hold is refused before any
connection is tried; a node that does not answer is a transport error.
-/

namespace ClusterNode
namespace Transport

structure Timeouts where
  connectMs : Nat
  requestSecs : Nat
  deriving DecidableEq, Repr

/-- The marks that may stand in the authority of a URI beside letters and digits. -/
def uriMarks : List Char := "!$&()*+,-.:;=@[]_~".toList ++ [Char.ofNat 39]

def isUriChar (c : Char) : Bool :=
  ('a' ≤ c && c ≤ 'z') || ('A' ≤ c && c ≤ 'Z') || ('0' ≤ c && c ≤ '9') || uriMarks.contains c

def uri? (address : Address) : Option String :=
  if address.host.toList.all isUriChar then some ("http://" ++ address.toText) else none

def unanswered (address : Address) : ClusterError :=
  match uri? address with
  | none => .invalidAddress address.toText
  | some _ => .connect address.toText "transport error"

end Transport
end ClusterNode
