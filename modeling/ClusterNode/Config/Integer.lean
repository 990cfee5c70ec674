import ClusterNode.Number.Decimal

/-!
# Integers of a configuration

A configuration keeps whole numbers of 64 and of 128 bits, each with a sign or without one, and an
integer carries the bounds of its kind. Documents and the environment give numbers of 64 bits; a
tree that is built by hand may hold all four kinds.
-/

namespace ClusterNode

inductive Width
  | word
  | wide
  deriving DecidableEq, Repr

namespace Width

def bits : Width -> Nat
  | word => 64
  | wide => 128

/-- The least number that is too large for an integer with a sign. -/
def signedBound : Width -> Nat
  | word => Number.integerBound
  | wide => Nat.pow 2 127

/-- The least number that is too large for an integer without a sign. -/
def unsignedBound : Width -> Nat
  | word => Number.wordBound
  | wide => Nat.pow 2 128

end Width

structure Signed where
  width : Width
  value : Int
  lower : -Int.ofNat width.signedBound ≤ value
  upper : value < Int.ofNat width.signedBound
  deriving DecidableEq, Repr

structure Unsigned where
  width : Width
  value : Nat
  upper : value < width.unsignedBound
  deriving DecidableEq, Repr

namespace Signed

def ofInt? (width : Width) (i : Int) : Option Signed :=
  if h : -Int.ofNat width.signedBound ≤ i ∧ i < Int.ofNat width.signedBound then
    some ⟨width, i, h.left, h.right⟩
  else none

instance : ToString Signed where
  toString i := toString i.value

end Signed

namespace Unsigned

def ofNat? (width : Width) (n : Nat) : Option Unsigned :=
  if h : n < width.unsignedBound then some ⟨width, n, h⟩ else none

instance : ToString Unsigned where
  toString n := toString n.value

/-- The integer of the same width with a sign, if the number fits into it. -/
def signed? (n : Unsigned) : Option Signed := Signed.ofInt? n.width (Int.ofNat n.value)

/-!
## Numbers that fit
-/

theorem value_of_signed? {n : Unsigned} {i : Signed} (h : n.signed? = some i) :
    i.value = Int.ofNat n.value := by
  unfold signed? Signed.ofInt? at h
  split at h
  · cases h
    rfl
  · cases h

theorem signed?_eq_none_iff (n : Unsigned) :
    n.signed? = none <-> n.width.signedBound ≤ n.value := by
  unfold signed? Signed.ofInt?
  constructor
  · intro h
    split at h
    · cases h
    · rename_i hbound
      refine Nat.le_of_not_lt fun hlt => hbound ⟨?_, Int.ofNat_lt.mpr hlt⟩
      exact Int.le_trans (Int.neg_nonpos_of_nonneg (Int.natCast_nonneg _)) (Int.natCast_nonneg _)
  · intro hle
    rw [dif_neg]
    intro hbound
    exact absurd (Int.ofNat_lt.mp hbound.right) (Nat.not_lt.mpr hle)

end Unsigned
end ClusterNode
