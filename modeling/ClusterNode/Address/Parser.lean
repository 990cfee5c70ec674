import ClusterNode.Address
import ClusterNode.ClusterError
import ClusterNode.Text.Blank

/-!
# Reading an address

A member is written as `host`, `host:port`, an IPv6 address alone, or an IPv6 address in brackets
with or without a port. Blanks around it do not count. A colon in a host is possible only in an IPv6
address.
-/

namespace ClusterNode
namespace Address

def splitBracketed (s : List Char) : Option (List Char × Option UInt16) :=
  match Text.cutFirst ']' s with
  | none => none
  | some (host, tail) =>
      if Net.isIpv6 host then
        match tail with
        | [] => some (host, none)
        | ':' :: digits => (Number.port? digits).map fun port => (host, some port)
        | _ => none
      else none

def splitPlain (s : List Char) : Option (List Char × Option UInt16) :=
  match Text.cutLast ':' s with
  | some (host, digits) =>
      if host = [] ∨ ':' ∈ host then none
      else (Number.port? digits).map fun port => (host, some port)
  | none => if s.isEmpty then none else some (s, none)

/-- Host and port of a text without blanks around it. -/
def splitHostPort : List Char -> Option (List Char × Option UInt16)
  | '[' :: rest => splitBracketed rest
  | s => if Net.isIpv6 s then some (s, none) else splitPlain s

def ofHostPort (host : List Char) (port : UInt16) : Address :=
  { host := String.ofList host, port }

/-- Reads an address whose port may be left out. -/
def parseWithDefault (s : String) (defaultPort : UInt16) : Except ClusterError Address :=
  let trimmed := Text.trimChars s.toList
  match splitHostPort trimmed with
  | some (host, port) => .ok (ofHostPort host (port.getD defaultPort))
  | none => .error (.invalidAddress (String.ofList trimmed))

/-- Reads an address with a port. A text that only lacks the port is shown in full. -/
def parse (s : String) : Except ClusterError Address :=
  let trimmed := Text.trimChars s.toList
  match splitHostPort trimmed with
  | some (host, some port) => .ok (ofHostPort host port)
  | some (_, none) => .error (.invalidAddress s)
  | none => .error (.invalidAddress (String.ofList trimmed))

end Address
end ClusterNode
