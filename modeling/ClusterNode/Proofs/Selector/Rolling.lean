import ClusterNode.Proofs.Selector.Calls
import Mathlib.Algebra.Order.Floor.Div
import Mathlib.Data.List.Rotate

/-!
# Picks in turn

As long as the cursor does not wrap, or if the length of the list divides the number of its values,
turns in a row with one list go round that list. A round is a rotation of the list, so it has every
peer as often as the list, and any number of turns lies between two numbers of whole rounds.
-/

namespace ClusterNode
namespace Selector

variable {α : Type} {peers : List α} {start k : Nat}

/-!
## Going round a list

A whole round is a rotation of the list, so whole rounds have every peer in proportion.
-/

/-- The picks of `k` turns in a row, the first of them at the position `start`. -/
def goRound (peers : List α) (start k : Nat) : List (Option α) :=
  (List.range k).map fun j => peers[(start + j) % peers.length]?

theorem goRound_add (peers : List α) (start k m : Nat) :
    goRound peers start (k + m) = goRound peers start k ++ goRound peers (start + k) m := by
  unfold goRound
  rw [List.range_add, List.map_append, List.map_map]
  congr 1
  apply List.map_congr_left
  intro j _
  rw [Function.comp_apply, Nat.add_assoc]

theorem goRound_initial {m : Nat} (h : k ≤ m) :
    goRound peers start k <+: goRound peers start m := by
  rw [← Nat.add_sub_cancel' h, goRound_add]
  exact List.prefix_append _ _

theorem goRound_length (peers : List α) (start : Nat) :
    goRound peers start peers.length = (peers.rotate start).map some := by
  apply List.ext_getElem?
  intro j
  rw [List.getElem?_map]
  rcases Nat.lt_or_ge j peers.length with hlt | hge
  · rw [List.getElem?_rotate hlt, goRound, List.getElem?_map, List.getElem?_range hlt,
      Nat.add_comm j]
    have hpos : (start + j) % peers.length < peers.length := Nat.mod_lt _ (Nat.zero_lt_of_lt hlt)
    simp [List.getElem?_eq_getElem hpos]
  · rw [List.getElem?_eq_none (by simpa [goRound] using hge),
      List.getElem?_eq_none (by simpa using hge)]
    rfl

theorem ceilDiv_le_succ (hpeers : 0 < peers.length) (k : Nat) :
    k ⌈/⌉ peers.length ≤ k / peers.length + 1 := by
  rw [ceilDiv_le_iff_le_mul hpeers]
  exact (Nat.lt_mul_div_succ k hpeers).le

section Counting

variable [DecidableEq α] {peer : α}

theorem count_goRound_length (peers : List α) (start : Nat) (peer : α) :
    (goRound peers start peers.length).count (some peer) = peers.count peer := by
  rw [goRound_length, List.count_map_of_injective _ _ (Option.some_injective α)]
  exact (List.rotate_perm peers start).count_eq peer

theorem count_goRound_mul (peers : List α) (start rounds : Nat) (peer : α) :
    (goRound peers start (peers.length * rounds)).count (some peer) =
      peers.count peer * rounds := by
  induction rounds with
  | zero => rfl
  | succ rounds ih =>
      rw [Nat.mul_succ, goRound_add, List.count_append, ih, count_goRound_length, Nat.mul_succ]

theorem le_count_goRound (peers : List α) (start k : Nat) (peer : α) :
    peers.count peer * (k / peers.length) ≤ (goRound peers start k).count (some peer) := by
  rw [← count_goRound_mul peers start]
  exact (goRound_initial (Nat.mul_div_le k peers.length)).sublist.count_le _

theorem count_goRound_le (peers : List α) (start k : Nat) (peer : α) :
    (goRound peers start k).count (some peer) ≤ peers.count peer * (k ⌈/⌉ peers.length) := by
  rcases Nat.eq_zero_or_pos peers.length with hzero | hpos
  · rw [List.eq_nil_of_length_eq_zero hzero, List.count_eq_zero_of_not_mem (by simp [goRound])]
    exact Nat.zero_le _
  · rw [← count_goRound_mul peers start]
    exact (goRound_initial (le_smul_ceilDiv hpos)).sublist.count_le _

/-- A peer that the list has once is picked as often as any other, up to one. -/
theorem count_goRound (hpeers : peers.Nodup) (hpeer : peer ∈ peers) (start k : Nat) :
    (goRound peers start k).count (some peer) = k / peers.length ∨
      (goRound peers start k).count (some peer) = k ⌈/⌉ peers.length := by
  have hpos := List.length_pos_of_mem hpeer
  have hlow := le_count_goRound peers start k peer
  have hhigh := count_goRound_le peers start k peer
  have hnear := ceilDiv_le_succ hpos k
  rw [List.count_eq_one_of_mem hpeers hpeer, Nat.one_mul] at hlow hhigh
  omega

end Counting

/-!
## The cursor
-/

/-- In a window of turns the cursor does not wrap, or it does not matter that it does. -/
def StaysInStep (start turns size : Nat) : Prop := start + turns ≤ 2 ^ 64 ∨ size ∣ 2 ^ 64

theorem toNat_cursor_mod (cursor : UInt64) {before turns size j : Nat}
    (h : StaysInStep (cursor + UInt64.ofNat before).toNat turns size) (hj : j < turns) :
    (cursor + UInt64.ofNat (before + j)).toNat % size =
      ((cursor + UInt64.ofNat before).toNat + j) % size := by
  rw [UInt64.ofNat_add, ← UInt64.add_assoc, UInt64.toNat_add]
  generalize (cursor + UInt64.ofNat before).toNat = start at h
  rw [UInt64.toNat_ofNat', Nat.add_mod_mod]
  rcases h with hfits | hdivides
  · rw [Nat.mod_eq_of_lt (show start + j < 2 ^ 64 by omega)]
  · rw [Nat.mod_mod_of_dvd _ hdivides]

/-!
## Turns in a row
-/

namespace Pool

variable {cursor : UInt64} {order before window later : List Nat} {p : Pool α} {n : Nat}
  {call : Call α} {items : List α} {pick : Option α}

theorem Gets.eq_getElem? (h : Gets cursor order n items pick) (honce : order.Nodup)
    (hk : order[k]? = some n) :
    pick = items[(cursor + UInt64.ofNat k).toNat % items.length]? := by
  cases h with
  | nothing hnot => exact absurd (List.mem_of_getElem? hk) hnot
  | @inTurn items m _ hm =>
      have hm' := (List.getElem?_eq_some_iff.mp hm).1
      rw [(List.getElem?_inj hm' honce).mp (hm.trans hk.symm)]

theorem Sound.gets (h : Sound cursor order p) (hn : n ∈ order)
    (hcall : p.calls[n]? = some call) : Gets cursor order n call.items (p.pick? n) := by
  have hstands := h.stands n call hcall
  unfold pick?
  rw [hcall]
  cases call with
  | asked items key => exact absurd hn hstands
  | settled items pick => exact hstands
  | returned items pick => exact hstands

theorem Sound.map_pick? (h : Sound cursor (before ++ window ++ later) p)
    (hlist : forall n, n ∈ window -> exists call, p.calls[n]? = some call ∧ call.items = peers)
    (hstep : StaysInStep (cursor + UInt64.ofNat before.length).toNat window.length
      peers.length) :
    window.map p.pick? =
      goRound peers (cursor + UInt64.ofNat before.length).toNat window.length := by
  apply List.ext_getElem
  · simp [goRound]
  · intro j hj _
    rw [List.length_map] at hj
    have hturn : (before ++ window ++ later)[before.length + j]? = some window[j] := by
      rw [List.append_assoc, List.getElem?_append_right (Nat.le_add_right _ _),
        Nat.add_sub_cancel_left, List.getElem?_append_left hj, List.getElem?_eq_getElem hj]
    rcases hlist window[j] (List.getElem_mem hj) with ⟨call, hcall, rfl⟩
    have hpick := (h.gets (List.mem_of_getElem? hturn) hcall).eq_getElem? h.once hturn
    rw [List.getElem_map, hpick, toNat_cursor_mod cursor hstep hj]
    simp [goRound]

theorem Sound.returned (h : Sound cursor order p)
    (hcall : p.calls[n]? = some (.returned items pick)) :
    (items = [] -> pick = none ∧ order.count n = 0) ∧
      (items ≠ [] -> (exists item, item ∈ items ∧ pick = some item) ∧ order.count n = 1) := by
  have hgets : Gets cursor order n items pick := h.stands n _ hcall
  cases hgets with
  | nothing hnot =>
      exact ⟨fun _ => ⟨rfl, List.count_eq_zero_of_not_mem hnot⟩, fun hne => absurd rfl hne⟩
  | @inTurn items k hne hk =>
      refine ⟨fun hempty => absurd hempty hne, fun _ => ⟨?_, ?_⟩⟩
      · have hlt := Nat.mod_lt (cursor + UInt64.ofNat k).toNat (List.length_pos_of_ne_nil hne)
        exact ⟨_, List.getElem_mem hlt, List.getElem?_eq_getElem hlt⟩
      · exact List.count_eq_one_of_mem h.once (List.mem_of_getElem? hk)

end Pool

/-- Whichever calls overlap, the cursor counts the calls with a list that is not empty. Such a call
returns an element of its list and has one turn; a call with an empty list returns nothing and has
none; and a call that goes on returns. Turns in a row with one list go round the list, and pick its
peers equally often, up to one; a peer that the list has more than once counts as often. -/
theorem rolling_fair [DecidableEq α] (cursor : UInt64) (moves : List (Move α)) :
    let pool : Pool α := (Pool.opened cursor).after moves
    let order : List Nat := (Pool.opened cursor : Pool α).turns moves
    pool.calls.map Call.items = moves.filterMap Move.items? ∧
    pool.selector = .rolling (cursor + UInt64.ofNat order.length) ∧
    (forall n items pick, pool.calls[n]? = some (.returned items pick) ->
      (items = [] -> pick = none ∧ order.count n = 0) ∧
      (items ≠ [] -> (exists item, item ∈ items ∧ pick = some item) ∧ order.count n = 1)) ∧
    (forall past later n, moves = past ++ later ->
      n < ((Pool.opened cursor : Pool α).after past).calls.length ->
      2 ≤ later.countP (Move.isStepOf n) ->
        exists items pick, pool.calls[n]? = some (.returned items pick)) ∧
    forall before window later peers, order = before ++ window ++ later ->
      (forall n, n ∈ window ->
        exists call, pool.calls[n]? = some call ∧ call.items = peers) ->
      StaysInStep (cursor + UInt64.ofNat before.length).toNat window.length peers.length ->
        window.map pool.pick? =
          goRound peers (cursor + UInt64.ofNat before.length).toNat window.length ∧
        (forall peer,
          peers.count peer * (window.length / peers.length) ≤
              (window.map pool.pick?).count (some peer) ∧
            (window.map pool.pick?).count (some peer) ≤
              peers.count peer * (window.length ⌈/⌉ peers.length)) ∧
        (peers.Nodup -> forall peer, peer ∈ peers ->
          (window.map pool.pick?).count (some peer) = window.length / peers.length ∨
          (window.map pool.pick?).count (some peer) = window.length ⌈/⌉ peers.length) := by
  intro pool order
  have hsound : Pool.Sound cursor order pool := Pool.sound_after cursor moves
  refine ⟨Pool.items_after _ moves, hsound.counts, fun n items pick => hsound.returned, ?_, ?_⟩
  · intro past later n hmoves hn hsteps
    have hpool : pool = ((Pool.opened cursor).after past).after later := by
      show Pool.after _ moves = _
      rw [hmoves]
      exact List.foldl_append
    rw [hpool]
    exact Pool.exists_returned hn hsteps
  · intro before window later peers horder hlist hstep
    rw [horder] at hsound
    have hround := hsound.map_pick? hlist hstep
    rw [hround]
    refine ⟨rfl, fun peer => ⟨?_, ?_⟩, fun hpeers peer hpeer => ?_⟩
    · exact le_count_goRound peers _ _ peer
    · exact count_goRound_le peers _ _ peer
    · exact count_goRound hpeers hpeer _ _

end Selector
end ClusterNode
