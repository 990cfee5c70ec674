import ClusterNode.Net.Ip

/-!
# Socket addresses

An IP address with a port, as an exporter listens on. An IPv6 address stands in brackets and may
name a scope by number; the port is plain digits.
-/

namespace ClusterNode
namespace Net

inductive Endpoint
  | v4 (ip : Ipv4) (port : UInt16)
  | v6 (ip : Ipv6) (scope : UInt32) (port : UInt16)
  deriving DecidableEq, Repr

namespace Endpoint

/-- Digits below `bound`, without a sign. -/
def plain? (bound : Nat) (s : List Char) : Option Nat :=
  (Number.natural? s).filter (· < bound)

def port? (s : List Char) : Option UInt16 := (plain? 65536 s).map Nat.toUInt16

/-- The inside of the brackets: an address, and a scope after a percent sign. -/
def scoped? (s : List Char) : Option (Ipv6 × UInt32) :=
  match Text.cutFirst '%' s with
  | none => (Ipv6.ofChars? s).map (·, 0)
  | some (ip, scope) => do
      let ip ← Ipv6.ofChars? ip
      let scope ← plain? (Nat.pow 2 32) scope
      some (ip, scope.toUInt32)

def ofChars? : List Char -> Option Endpoint
  | '[' :: rest => do
      let (inside, tail) ← Text.cutFirst ']' rest
      let (ip, scope) ← scoped? inside
      match tail with
      | ':' :: digits => (port? digits).map (v6 ip scope)
      | _ => none
  | s => do
      let (host, digits) ← Text.cutLast ':' s
      let ip ← Ipv4.ofChars? host
      (port? digits).map (v4 ip)

def ofText? (s : String) : Option Endpoint := ofChars? s.toList

def toText : Endpoint -> String
  | v4 ip port => ip.toText ++ ":" ++ toString port.toNat
  | v6 ip scope port =>
      let scopeText := if scope = 0 then "" else "%" ++ toString scope.toNat
      "[" ++ ip.toText ++ scopeText ++ "]:" ++ toString port.toNat

end Endpoint

end Net
end ClusterNode
