import ClusterNode.Number.Binary64

/-!
# JSON documents

The tree of a JSON document. A number keeps its digits, so that what it stands for can be decided
later: a whole number within 64 bits, or a floating-point number.
-/

namespace ClusterNode

/-- The digits of a JSON number; the exponent carries its sign. -/
structure Numeral where
  negative : Bool
  whole : List Char
  fraction : List Char
  exponent : Option (Bool × List Char)
  deriving DecidableEq, Repr

inductive Json
  | null
  | bool (value : Bool)
  | number (numeral : Numeral)
  | string (text : String)
  | array (items : List Json)
  | object (members : List (String × Json))
  deriving Repr

namespace Json

def member? (members : List (String × Json)) (name : String) : Option Json :=
  (members.reverse.find? fun (key, _) => key == name).map Prod.snd

def get? (json : Json) (name : String) : Option Json :=
  match json with
  | object members => member? members name
  | _ => none

end Json

namespace Numeral

open Number

def isWhole (n : Numeral) : Bool :=
  n.fraction.isEmpty && n.exponent.isNone

/-!
## The floating-point number of a numeral

The digits are taken while their value fits into 64 bits, the rest counts as a power of ten. The
value of the digits and the power of ten are each rounded, and so is their product. A result beyond
the finite range is refused.
-/

def leading (value : Nat) : List Char -> Nat × List Char
  | [] => (value, [])
  | c :: rest =>
      let next := value * 10 + (digit? c).getD 0
      if maxWord < next then (value, c :: rest) else leading next rest

/-- The significand and the power of ten of the digits around the point. -/
def significand (n : Numeral) : Nat × Int :=
  let (whole, dropped) := leading 0 n.whole
  let (value, left) := leading whole n.fraction
  (value, Int.ofNat dropped.length - Int.ofNat (n.fraction.length - left.length))

def tenTo (k : Nat) : Binary64 := Binary64.ofDecimal false 1 (Int.ofNat k)

/-- Powers of ten beyond the table are divided out in steps of 308. -/
def scaleDown : Nat -> Binary64 -> Nat -> Binary64
  | 0, x, _ => x
  | fuel + 1, x, k =>
      if k ≤ 308 then x.divide (tenTo k)
      else if x.isZero then x
      else scaleDown fuel (x.divide (tenTo 308)) (k - 308)

def applyPower (x : Binary64) (k : Int) : Option Binary64 :=
  match k with
  | .ofNat k =>
      if 308 < k then (if x.isZero then some x else none)
      else
        match x.multiply (tenTo k) with
        | .infinite _ => none
        | product => some product
  | .negSucc k => some (scaleDown 4 x (k + 1))

/-- The limits of the exponent are those of 32 bits. -/
def toBinary64? (n : Numeral) : Option Binary64 :=
  let (value, power) := n.significand
  let sign (x : Binary64) : Binary64 := if n.negative then x.negate else x
  let start := Binary64.ofDecimal false value 0
  match n.exponent with
  | none => (applyPower start power).map sign
  | some (negative, digits) =>
      let e := Binary64.digitValue digits
      if Nat.pow 2 31 ≤ e then
        if value = 0 ∨ negative then some (sign (Binary64.zero false)) else none
      else
        let e : Int := if negative then -Int.ofNat e else Int.ofNat e
        (applyPower start (power + e)).map sign

/-- The whole number a numeral stands for, unless it is a floating-point number: it has a point or
an exponent, or is a negative zero, or does not fit into 64 bits. -/
def toInteger? (n : Numeral) : Option Int :=
  if n.isWhole then
    let value := Binary64.digitValue n.whole
    if n.negative then (if 0 < value ∧ value ≤ integerBound then some (-Int.ofNat value) else none)
    else if value ≤ maxWord then some (Int.ofNat value)
    else none
  else none

end Numeral

end ClusterNode
