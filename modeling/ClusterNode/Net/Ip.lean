import ClusterNode.Number.Decimal
import ClusterNode.Text.Split

/-!
# IP addresses

The strict text forms of IPv4 and IPv6 addresses, and the canonical text of an IPv6 address. An IPv4
part has no leading zeros, an IPv6 group has at most four hexadecimal digits, two colons stand for
at least one group of zeros, and the last two groups may be written as an IPv4 address.
-/

namespace ClusterNode
namespace Net

structure Ipv4 where
  first : UInt8
  second : UInt8
  third : UInt8
  fourth : UInt8
  deriving DecidableEq, Repr

structure Ipv6 where
  groups : List UInt16
  length_groups : groups.length = 8
  deriving DecidableEq, Repr

/-!
## IPv4
-/

/-- One to three digits below 256, without a leading zero. -/
def octet? (s : List Char) : Option UInt8 :=
  if s.length ≤ 3 ∧ (s.head? = some '0' -> s.length = 1) then
    ((Number.natural? s).filter (· < 256)).map Nat.toUInt8
  else none

def Ipv4.ofChars? (s : List Char) : Option Ipv4 :=
  match Text.pieces '.' s with
  | [a, b, c, d] => do
      let first ← octet? a
      let second ← octet? b
      let third ← octet? c
      let fourth ← octet? d
      some { first, second, third, fourth }
  | _ => none

def Ipv4.isLoopback (ip : Ipv4) : Bool := ip.first == 127

def Ipv4.toText (ip : Ipv4) : String :=
  toString ip.first.toNat ++ "." ++ toString ip.second.toNat ++ "." ++ toString ip.third.toNat ++
    "." ++ toString ip.fourth.toNat

def Ipv4.groups (ip : Ipv4) : List UInt16 :=
  [ip.first.toUInt16 * 256 + ip.second.toUInt16, ip.third.toUInt16 * 256 + ip.fourth.toUInt16]

/-!
## IPv6
-/

def hexValue? (c : Char) : Option Nat :=
  if '0' ≤ c ∧ c ≤ '9' then some (c.toNat - 48)
  else if 'a' ≤ c ∧ c ≤ 'f' then some (c.toNat - 87)
  else if 'A' ≤ c ∧ c ≤ 'F' then some (c.toNat - 55)
  else none

def readHex (value : Nat) : List Char -> Option Nat
  | [] => some value
  | c :: rest => (hexValue? c).bind fun d => readHex (value * 16 + d) rest

/-- One to four hexadecimal digits. -/
def group? (s : List Char) : Option UInt16 :=
  if s.isEmpty ∨ 4 < s.length then none else (readHex 0 s).map Nat.toUInt16

/-- The groups of pieces, of which the last may be an IPv4 address. -/
def groupsOfPieces? : List (List Char) -> Option (List UInt16)
  | [] => some []
  | [last] =>
      match group? last with
      | some g => some [g]
      | none => (Ipv4.ofChars? last).map Ipv4.groups
  | piece :: rest => do
      let g ← group? piece
      let gs ← groupsOfPieces? rest
      some (g :: gs)

/-- The groups before two colons: none, or pieces of hexadecimal digits alone. -/
def headGroups? (s : List Char) : Option (List UInt16) :=
  if s.isEmpty then some [] else (Text.pieces ':' s).mapM group?

def tailGroups? (s : List Char) : Option (List UInt16) :=
  if s.isEmpty then some [] else groupsOfPieces? (Text.pieces ':' s)

/-- The text before and after the first two colons in a row. -/
def cutColons : List Char -> Option (List Char × List Char)
  | ':' :: ':' :: rest => some ([], rest)
  | [] => none
  | c :: rest => (cutColons rest).map fun (before, after) => (c :: before, after)

/-- Zeros between the groups before and after two colons; there must be room for one. -/
def fillZeros (before after : List UInt16) : Option (List UInt16) :=
  if before.length + after.length ≤ 7 then
    some (before ++ List.replicate (8 - before.length - after.length) 0 ++ after)
  else none

def ipv6Groups? (s : List Char) : Option (List UInt16) :=
  match cutColons s with
  | none => groupsOfPieces? (Text.pieces ':' s)
  | some (before, after) => do
      let before ← headGroups? before
      let after ← tailGroups? after
      fillZeros before after

def Ipv6.ofChars? (s : List Char) : Option Ipv6 :=
  match ipv6Groups? s with
  | some groups => if h : groups.length = 8 then some ⟨groups, h⟩ else none
  | none => none

def isIpv6 (s : List Char) : Bool := (Ipv6.ofChars? s).isSome

def Ipv6.isLoopback (ip : Ipv6) : Bool := ip.groups == [0, 0, 0, 0, 0, 0, 0, 1]

def isLoopbackText (s : List Char) : Bool :=
  match Ipv4.ofChars? s with
  | some ip => ip.isLoopback
  | none =>
      match Ipv6.ofChars? s with
      | some ip => ip.isLoopback
      | none => false

/-!
## The canonical text of an IPv6 address

The first of the longest runs of at least two zero groups becomes two colons; an address that stands
for an IPv4 address ends in its text.
-/

def leadingZeros : List UInt16 -> Nat
  | 0 :: rest => leadingZeros rest + 1
  | _ => 0

/-- Start and length of the first longest run of zeros, given the best run before `start`. -/
def longestZeros (start : Nat) (best : Nat × Nat) : List UInt16 -> Nat × Nat
  | [] => best
  | g :: rest =>
      let run := leadingZeros (g :: rest)
      longestZeros (start + 1) (if best.2 < run then (start, run) else best) rest

def groupText (g : UInt16) : String := String.ofList (Nat.toDigits 16 g.toNat)

def groupsText (gs : List UInt16) : String := String.intercalate ":" (gs.map groupText)

def octetsText (g h : UInt16) : String :=
  toString (g.toNat / 256) ++ "." ++ toString (g.toNat % 256) ++ "." ++ toString (h.toNat / 256) ++
    "." ++ toString (h.toNat % 256)

def Ipv6.toText (ip : Ipv6) : String :=
  match ip.groups with
  | [0, 0, 0, 0, 0, 0xFFFF, g, h] => "::ffff:" ++ octetsText g h
  | gs =>
      let (start, run) := longestZeros 0 (0, 0) gs
      if 1 < run then groupsText (gs.take start) ++ "::" ++ groupsText (gs.drop (start + run))
      else groupsText gs

end Net
end ClusterNode
