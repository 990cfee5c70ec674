/-!
# Decimal integers

Whole numbers read from ASCII digits. Leading zeros are allowed, and so is one sign: a plus, and a
minus where the number may be negative. A reading fails outside its bound.
-/

namespace ClusterNode
namespace Number

def digit? (c : Char) : Option Nat :=
  if '0' ≤ c ∧ c ≤ '9' then some (c.toNat - 48) else none

def isDigit (c : Char) : Bool := (digit? c).isSome

/-- The value of `value` followed by more digits. -/
def readDigits (value : Nat) : List Char -> Option Nat
  | [] => some value
  | c :: rest => (digit? c).bind fun d => readDigits (value * 10 + d) rest

def natural? (s : List Char) : Option Nat :=
  if s.isEmpty then none else readDigits 0 s

def dropPlus : List Char -> List Char
  | '+' :: rest => rest
  | s => s

/-- A number below `bound`. -/
def unsigned? (bound : Nat) (s : List Char) : Option Nat :=
  (natural? (dropPlus s)).filter (· < bound)

/-- A number from `-bound` up to, but not including, `bound`. -/
def signed? (bound : Nat) : List Char -> Option Int
  | '-' :: rest => ((natural? rest).filter (· ≤ bound)).map fun n => -Int.ofNat n
  | s => (unsigned? bound s).map Int.ofNat

def port? (s : List Char) : Option UInt16 :=
  (unsigned? 65536 s).map Nat.toUInt16

/-- The least number that does not fit into 64 bits. -/
def wordBound : Nat := Nat.pow 2 64

/-- The least number that does not fit into 63 bits. -/
def integerBound : Nat := Nat.pow 2 63

def maxWord : Nat := wordBound - 1

def word? (s : List Char) : Option Nat := unsigned? wordBound s

def integer? (s : List Char) : Option Int := signed? integerBound s

end Number
end ClusterNode
