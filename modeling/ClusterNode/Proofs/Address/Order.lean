import ClusterNode.Address
import Mathlib.Data.List.Lex
import Mathlib.Data.List.Sort
import Mathlib.Tactic.Common

/-!
# The order of addresses

Addresses are a total preorder whose equal elements are the addresses with one key. A sorted list
without two equal keys is strictly ascending, and it is the only strictly ascending list of its
keys. Hosts are compared by code points, which is the order of their UTF-8 bytes.
-/

namespace ClusterNode

/-!
## Bytes of a text

A smaller code point has the smaller encoding, whatever follows, since the first byte grows with the
length of the encoding and the other bytes are its digits.
-/

namespace Text

def bytes (s : String) : List UInt8 :=
  s.toList.flatMap String.utf8EncodeChar

theorem ofNat_lt_ofNat {m n : Nat} (hm : m < 256) (hn : n < 256) :
    UInt8.ofNat m < UInt8.ofNat n <-> m < n := by
  rw [UInt8.lt_iff_toNat_lt, UInt8.toNat_ofNat_of_lt' hm, UInt8.toNat_ofNat_of_lt' hn]

theorem ofNat_eq_ofNat {m n : Nat} (hm : m < 256) (hn : n < 256) :
    UInt8.ofNat m = UInt8.ofNat n <-> m = n := by
  rw [← UInt8.toNat_inj, UInt8.toNat_ofNat_of_lt' hm, UInt8.toNat_ofNat_of_lt' hn]

theorem digits (v : Nat) (h : v < 1114112) :
    v / 64 / 64 = v / 4096 ∧ v / 4096 / 64 = v / 262144 ∧
      v / 262144 % 8 = v / 262144 := by
  refine ⟨Nat.div_div_eq_div_mul _ _ _, Nat.div_div_eq_div_mul _ _ _, Nat.mod_eq_of_lt ?_⟩
  omega

theorem toNat_val_lt (c : Char) : c.val.toNat < 1114112 := by
  rcases c.valid with hlow | ⟨_, hhigh⟩
  · exact Nat.lt_trans hlow (by decide)
  · exact hhigh

theorem utf8EncodeChar_append_lt {a b : Char} (h : a < b) (x y : List UInt8) :
    String.utf8EncodeChar a ++ x < String.utf8EncodeChar b ++ y := by
  have hlt : a.val.toNat < b.val.toNat := h
  have ha := digits a.val.toNat (toNat_val_lt a)
  have hb := digits b.val.toNat (toNat_val_lt b)
  have hbound := toNat_val_lt b
  unfold String.utf8EncodeChar
  dsimp only
  generalize a.val.toNat = m at *
  generalize b.val.toNat = n at *
  -- One case for each pair of lengths; those where the longer encoding belongs to `a` are absurd.
  split_ifs <;>
    simp (disch := omega) only [List.cons_append, List.nil_append,
      List.cons_lt_cons_iff, ofNat_lt_ofNat, ofNat_eq_ofNat] <;>
    omega

theorem flatMap_utf8EncodeChar_lt {s t : List Char} (h : s < t) :
    s.flatMap String.utf8EncodeChar < t.flatMap String.utf8EncodeChar := by
  induction h with
  | @nil c rest =>
      rw [List.flatMap_cons, List.flatMap_nil]
      cases hc : String.utf8EncodeChar c with
      | nil => exact absurd hc String.utf8EncodeChar_ne_nil
      | cons first more => exact List.nil_lt_cons first _
  | cons _ ih =>
      rw [List.flatMap_cons, List.flatMap_cons]
      exact List.append_left_lt ih
  | rel hlt =>
      rw [List.flatMap_cons, List.flatMap_cons]
      exact utf8EncodeChar_append_lt hlt _ _

theorem bytes_lt_bytes {s t : String} (h : s < t) : bytes s < bytes t :=
  flatMap_utf8EncodeChar_lt (String.lt_iff.mp h)

end Text

/-!
## Keys
-/

namespace Address

/-- Hosts by their bytes, and then ports. -/
def KeyBefore (a b : String × UInt16) : Prop :=
  Text.bytes a.1 < Text.bytes b.1 ∨ a.1 = b.1 ∧ a.2 < b.2

instance : Std.Irrefl KeyBefore where
  irrefl a h := by
    rcases h with hhost | ⟨_, hport⟩
    · exact List.lt_irrefl _ hhost
    · exact UInt16.lt_irrefl _ hport

instance : Std.Antisymm KeyBefore where
  antisymm a b hab hba := by
    exfalso
    rcases hab with hab | ⟨hhost, hab⟩
    · rcases hba with hba | ⟨hhost, _⟩
      · exact List.lt_asymm hab hba
      · rw [hhost] at hab
        exact List.lt_irrefl _ hab
    · rcases hba with hba | ⟨_, hba⟩
      · rw [hhost] at hba
        exact List.lt_irrefl _ hba
      · exact UInt16.lt_asymm hab hba

/-!
## Comparing addresses
-/

instance : Std.TransCmp compare :=
  inferInstanceAs
    (Std.TransCmp (compareLex (compareOn Address.host) (compareOn Address.port)))

theorem compare_eq_eq_iff (a b : Address) : a.compare b = .eq <-> a.key = b.key := by
  unfold compare key
  rw [Ordering.then_eq_eq, Std.LawfulEqCmp.compare_eq_iff_eq,
    Std.LawfulEqCmp.compare_eq_iff_eq, Prod.mk.injEq]

theorem compare_congr {a b c d : Address} (hac : a.key = c.key) (hbd : b.key = d.key) :
    a.compare b = c.compare d := by
  unfold key at hac hbd
  injection hac with hhost hport
  injection hbd with hhost' hport'
  unfold compare
  rw [hhost, hport, hhost', hport']

theorem precedes_congr {a b c d : Address} (hac : a.key = c.key) (hbd : b.key = d.key) :
    a.precedes b = c.precedes d := by
  unfold precedes
  rw [compare_congr hac hbd]

theorem precedes_of_atMost {a b : Address} (h : a.atMost b = true) (hne : a.key ≠ b.key) :
    a.precedes b = true := by
  unfold atMost at h
  unfold precedes
  cases hcmp : a.compare b with
  | lt => rfl
  | eq => exact absurd ((compare_eq_eq_iff a b).mp hcmp) hne
  | gt => simp [hcmp] at h

theorem keyBefore_of_precedes {a b : Address} (h : a.precedes b = true) :
    KeyBefore a.key b.key := by
  have hcmp : a.compare b = .lt := by simpa [precedes] using h
  unfold compare at hcmp
  rcases Ordering.then_eq_lt.mp hcmp with hhost | ⟨hhost, hport⟩
  · exact Or.inl (Text.bytes_lt_bytes (compareOfLessAndEq_eq_lt.mp hhost))
  · exact Or.inr ⟨Std.LawfulEqCmp.compare_eq_iff_eq.mp hhost,
      compareOfLessAndEq_eq_lt.mp hport⟩

/-!
## Sorting

Without two equal keys the sorted list is strictly ascending.
-/

theorem atMost_trans (a b c : Address) (hab : a.atMost b = true) (hbc : b.atMost c = true) :
    a.atMost c = true := by
  simp only [atMost, bne_iff_ne] at hab hbc ⊢
  exact Std.TransCmp.le_trans hab hbc

theorem atMost_total (a b : Address) : (a.atMost b || b.atMost a) = true := by
  simp only [atMost, Bool.or_eq_true, bne_iff_ne]
  by_cases hgt : a.compare b = .gt
  · right
    rw [Std.OrientedCmp.gt_iff_lt.mp hgt]
    exact Ordering.noConfusion
  · exact Or.inl hgt

theorem sort_perm (addresses : List Address) : (sort addresses).Perm addresses :=
  List.mergeSort_perm addresses atMost

theorem pairwise_sort {addresses : List Address}
    (h : addresses.Pairwise fun a b => a.key ≠ b.key) :
    (sort addresses).Pairwise fun a b => a.precedes b = true := by
  have hsorted : (sort addresses).Pairwise fun a b => a.atMost b = true :=
    List.pairwise_mergeSort atMost_trans atMost_total addresses
  have hdistinct : (sort addresses).Pairwise fun a b => a.key ≠ b.key :=
    ((sort_perm addresses).pairwise_iff fun hne => Ne.symm hne).mpr h
  exact (hsorted.and hdistinct).imp fun ⟨hle, hne⟩ => precedes_of_atMost hle hne

theorem sort_pair (a b : Address) : sort [a, b] = if a.atMost b then [a, b] else [b, a] := by
  simp [sort, List.mergeSort, List.merge]

end Address
end ClusterNode
