import ClusterNode.Selector
import Mathlib.Data.List.Nodup

/-!
# Callers that share a selector

Many callers may be in the middle of a call at once, each with a list of its own. A call touches the
selector in one step, which settles its pick; it may wait before that step and again before it
returns. The calls with a list that is not empty take their turns in the order of these steps, and
the cursor counts them.
-/

namespace ClusterNode
namespace Selector

variable {α : Type}

/-- How far a call has come. -/
inductive Call (α : Type) where
  | asked (items : List α) (key : UInt64)
  | settled (items : List α) (pick : Option α)
  | returned (items : List α) (pick : Option α)

/-- A selector and the calls to it, numbered as they come in. -/
structure Pool (α : Type) where
  selector : Selector
  calls : List (Call α)

inductive Move (α : Type) where
  | asks (items : List α) (key : UInt64)
  | goes (call : Nat)

namespace Call

def items : Call α -> List α
  | asked items _ => items
  | settled items _ => items
  | returned items _ => items

def pick? : Call α -> Option α
  | asked _ _ => none
  | settled _ pick => pick
  | returned _ pick => pick

def go (s : Selector) : Call α -> Call α × Selector
  | asked items key => (settled items (s.select items key).1, (s.select items key).2)
  | settled items pick => (returned items pick, s)
  | returned items pick => (returned items pick, s)

def left : Call α -> Nat
  | asked _ _ => 2
  | settled _ _ => 1
  | returned _ _ => 0

def takesTurn : Call α -> Bool
  | asked items _ => !items.isEmpty
  | _ => false

@[simp] theorem items_go (s : Selector) (call : Call α) : (call.go s).1.items = call.items := by
  cases call <;> rfl

theorem left_go (s : Selector) (call : Call α) : (call.go s).1.left = call.left - 1 := by
  cases call <;> rfl

end Call

namespace Move

def items? : Move α -> Option (List α)
  | asks items _ => some items
  | goes _ => none

def isStepOf (call : Nat) : Move α -> Bool
  | asks _ _ => false
  | goes n => n == call

end Move

namespace Pool

def opened (cursor : UInt64) : Pool α := { selector := .rolling cursor, calls := [] }

def step (p : Pool α) : Move α -> Pool α
  | .asks items key => { p with calls := p.calls ++ [.asked items key] }
  | .goes n =>
      match p.calls[n]? with
      | some call =>
          { selector := (call.go p.selector).2, calls := p.calls.set n (call.go p.selector).1 }
      | none => p

def after (p : Pool α) (moves : List (Move α)) : Pool α := moves.foldl step p

def turn? (p : Pool α) : Move α -> Option Nat
  | .asks _ _ => none
  | .goes n =>
      match p.calls[n]? with
      | some call => if call.takesTurn then some n else none
      | none => none

def turns (p : Pool α) : List (Move α) -> List Nat
  | [] => []
  | move :: rest => (p.turn? move).toList ++ (p.step move).turns rest

/-- What a call gets, once that is settled. -/
def pick? (p : Pool α) (call : Nat) : Option α := p.calls[call]?.bind Call.pick?

variable {p : Pool α} {n : Nat} {call : Call α}

/-!
## Calls keep their lists

The lists of the calls are those that were handed over, in order.
-/

theorem step_goes (h : p.calls[n]? = some call) :
    p.step (.goes n) =
      { selector := (call.go p.selector).2, calls := p.calls.set n (call.go p.selector).1 } := by
  simp only [step, h]

theorem step_goes_of_missing (h : p.calls[n]? = none) : p.step (.goes n) = p := by
  simp only [step, h]

theorem turn?_goes (h : p.calls[n]? = some call) :
    p.turn? (.goes n) = if call.takesTurn then some n else none := by
  simp only [turn?, h]

theorem turn?_goes_of_missing (h : p.calls[n]? = none) : p.turn? (.goes n) = none := by
  simp only [turn?, h]

theorem items_step (p : Pool α) (move : Move α) :
    (p.step move).calls.map Call.items = p.calls.map Call.items ++ move.items?.toList := by
  cases move with
  | asks items key => exact List.map_append
  | goes n =>
      show _ = _ ++ []
      rw [List.append_nil]
      cases hcall : p.calls[n]? with
      | none => rw [step_goes_of_missing hcall]
      | some call =>
          rw [step_goes hcall, List.map_set, Call.items_go]
          rcases List.getElem?_eq_some_iff.mp hcall with ⟨hn, rfl⟩
          rw [← List.getElem_map Call.items (h := by simpa using hn), List.set_getElem_self]

theorem items_after (p : Pool α) (moves : List (Move α)) :
    (p.after moves).calls.map Call.items =
      p.calls.map Call.items ++ moves.filterMap Move.items? := by
  induction moves generalizing p with
  | nil => exact (List.append_nil _).symm
  | cons move rest ih =>
      show ((p.step move).after rest).calls.map Call.items = _
      rw [ih, items_step, List.append_assoc]
      cases move with
      | asks items key => rfl
      | goes n => rfl

/-!
## Calls return

Each step of a call brings it nearer to its return, whatever comes in between. A call that has gone
two steps has returned.
-/

theorem exists_step (h : p.calls[n]? = some call) (move : Move α) :
    exists call', (p.step move).calls[n]? = some call' ∧
      call'.left = call.left - if move.isStepOf n then 1 else 0 := by
  have hn := (List.getElem?_eq_some_iff.mp h).1
  cases move with
  | asks items key => exact ⟨call, (List.getElem?_append_left hn).trans h, rfl⟩
  | goes m =>
      by_cases hm : m = n
      · subst hm
        rw [step_goes h]
        refine ⟨_, List.getElem?_set_self hn, ?_⟩
        simp [Call.left_go, Move.isStepOf]
      · refine ⟨call, ?_, by simp [Move.isStepOf, hm]⟩
        cases hother : p.calls[m]? with
        | none => rw [step_goes_of_missing hother, h]
        | some other =>
            rw [step_goes hother]
            exact (List.getElem?_set_ne hm).trans h

theorem exists_after (h : p.calls[n]? = some call) (moves : List (Move α)) :
    exists call', (p.after moves).calls[n]? = some call' ∧
      call'.left = call.left - moves.countP (Move.isStepOf n) := by
  induction moves generalizing p call with
  | nil => exact ⟨call, h, rfl⟩
  | cons move rest ih =>
      rcases exists_step h move with ⟨next, hnext, hleft⟩
      rcases ih hnext with ⟨last, hlast, hleft'⟩
      refine ⟨last, hlast, ?_⟩
      rw [hleft', hleft, List.countP_cons, Nat.sub_sub, Nat.add_comm]

/-- A call that has gone two steps has returned. -/
theorem exists_returned (h : n < p.calls.length) {moves : List (Move α)}
    (hsteps : 2 ≤ moves.countP (Move.isStepOf n)) :
    exists items pick, (p.after moves).calls[n]? = some (.returned items pick) := by
  rcases exists_after (List.getElem?_eq_getElem h) moves with ⟨last, hlast, hleft⟩
  have hmost : p.calls[n].left ≤ 2 := by
    cases p.calls[n] <;> simp [Call.left]
  have hzero : last.left = 0 := by omega
  cases last with
  | asked items key => cases hzero
  | settled items pick => cases hzero
  | returned items pick => exact ⟨items, pick, hlast⟩

/-!
## Turns

The turn with the number `k` belongs to the cursor `cursor + k`.
-/

inductive Gets (cursor : UInt64) (order : List Nat) (n : Nat) : List α -> Option α -> Prop where
  | nothing :
      n ∉ order ->
      Gets cursor order n [] none
  | inTurn {items : List α} {k : Nat} :
      items ≠ [] ->
      order[k]? = some n ->
      Gets cursor order n items items[(cursor + UInt64.ofNat k).toNat % items.length]?

/-- What holds of a call by the turns that have been taken. -/
def Stands (cursor : UInt64) (order : List Nat) (n : Nat) : Call α -> Prop
  | .asked _ _ => n ∉ order
  | .settled items pick => Gets cursor order n items pick
  | .returned items pick => Gets cursor order n items pick

/-- What holds of a selector and its calls by the turns that have been taken. -/
structure Sound (cursor : UInt64) (order : List Nat) (p : Pool α) : Prop where
  /-- The cursor has counted the turns. -/
  counts : p.selector = .rolling (cursor + UInt64.ofNat order.length)
  known : forall n, n ∈ order -> n < p.calls.length
  /-- No call has two turns. -/
  once : order.Nodup
  stands : forall n call, p.calls[n]? = some call -> Stands cursor order n call

variable {cursor : UInt64} {order : List Nat} {items : List α} {pick : Option α}

theorem select_rolling (h : items ≠ []) (cursor key : UInt64) :
    (rolling cursor).select items key =
      (items[cursor.toNat % items.length]?, rolling (cursor + 1)) := by
  unfold select
  rw [if_neg fun hempty => h (List.isEmpty_iff.mp hempty)]
  rfl

theorem Gets.mono (h : Gets cursor order n items pick) {m : Nat} (hm : m ≠ n) :
    Gets cursor (order ++ [m]) n items pick := by
  cases h with
  | nothing hnot => exact .nothing (by simp [hnot, hm.symm])
  | inTurn hne hk =>
      exact .inTurn hne (List.getElem?_append_left (List.getElem?_eq_some_iff.mp hk).1 |>.trans hk)

theorem Stands.mono (h : Stands cursor order n call) {m : Nat} (hm : m ≠ n) :
    Stands cursor (order ++ [m]) n call := by
  cases call with
  | asked items key =>
      have hnot : n ∉ order := h
      show n ∉ order ++ [m]
      simp [hnot, hm.symm]
  | settled items pick => exact Gets.mono h hm
  | returned items pick => exact Gets.mono h hm

theorem sound_opened (cursor : UInt64) : Sound cursor [] (opened cursor : Pool α) := by
  constructor
  · exact congrArg Selector.rolling (UInt64.add_zero cursor).symm
  · intro n hn
    cases hn
  · exact List.nodup_nil
  · intro n call hcall
    cases hcall

theorem Sound.ask (h : Sound cursor order p) (items : List α) (key : UInt64) :
    Sound cursor order (p.step (.asks items key)) := by
  refine ⟨h.counts, ?_, h.once, ?_⟩
  · intro n hn
    exact Nat.lt_of_lt_of_le (h.known n hn) (by simp [step])
  · intro n call hcall
    replace hcall : (p.calls ++ [.asked items key])[n]? = some call := hcall
    rcases Nat.lt_or_ge n p.calls.length with hlt | hge
    · exact h.stands n call ((List.getElem?_append_left hlt).symm.trans hcall)
    · -- The new call has a number beyond those that have had a turn.
      rw [List.getElem?_append_right hge] at hcall
      rw [List.mem_singleton.mp (List.mem_of_getElem? hcall)]
      intro hmem
      exact absurd (h.known n hmem) (Nat.not_lt.mpr hge)

theorem Sound.set (h : Sound cursor order p) (hstands : Stands cursor order n call) :
    Sound cursor order { p with calls := p.calls.set n call } := by
  refine ⟨h.counts, ?_, h.once, ?_⟩
  · intro m hm
    simpa using h.known m hm
  · intro m other hother
    by_cases hm : n = m
    · subst hm
      rw [List.getElem?_set_self (by simpa using (List.getElem?_eq_some_iff.mp hother).1)] at hother
      cases hother
      exact hstands
    · exact h.stands m other ((List.getElem?_set_ne hm).symm.trans hother)

theorem Sound.takeTurn (h : Sound cursor order p) {key : UInt64}
    (hcall : p.calls[n]? = some (.asked items key)) (hne : items ≠ []) :
    Sound cursor (order ++ [n]) (p.step (.goes n)) := by
  have hn := (List.getElem?_eq_some_iff.mp hcall).1
  have hnot : n ∉ order := h.stands n _ hcall
  have hgo : (Call.asked items key).go p.selector =
      (.settled items items[(cursor + UInt64.ofNat order.length).toNat % items.length]?,
        rolling (cursor + UInt64.ofNat order.length + 1)) := by
    rw [Call.go, h.counts, select_rolling hne]
  rw [step_goes hcall, hgo]
  constructor
  · show rolling (cursor + UInt64.ofNat order.length + 1) = _
    rw [List.length_append, List.length_singleton, UInt64.ofNat_add, UInt64.add_assoc]
    rfl
  · intro m hm
    rw [List.length_set]
    rcases List.mem_append.mp hm with hold | hnew
    · exact h.known m hold
    · rw [List.mem_singleton.mp hnew]
      exact hn
  · rw [← List.concat_eq_append, List.nodup_concat]
    exact ⟨hnot, h.once⟩
  · intro m other hother
    by_cases hm : n = m
    · subst hm
      rw [List.getElem?_set_self hn] at hother
      cases hother
      exact .inTurn hne (by rw [List.getElem?_concat_length])
    · exact (h.stands m other ((List.getElem?_set_ne hm).symm.trans hother)).mono hm

theorem Sound.go (h : Sound cursor order p) (n : Nat) :
    Sound cursor (order ++ (p.turn? (.goes n)).toList) (p.step (.goes n)) := by
  cases hcall : p.calls[n]? with
  | none =>
      rw [turn?_goes_of_missing hcall, step_goes_of_missing hcall]
      exact (List.append_nil order).symm ▸ h
  | some call =>
      have hstands := h.stands n call hcall
      rw [turn?_goes hcall]
      cases call with
      | asked items key =>
          by_cases hne : items = []
          · subst hne
            have hnext : Stands cursor order n (.settled ([] : List α) none) := .nothing hstands
            rw [step_goes hcall]
            exact (List.append_nil order).symm ▸ h.set hnext
          · rw [if_pos (by simpa [Call.takesTurn] using hne)]
            exact h.takeTurn hcall hne
      | settled items pick =>
          have hnext : Stands cursor order n (.returned items pick) := hstands
          rw [step_goes hcall]
          exact (List.append_nil order).symm ▸ h.set hnext
      | returned items pick =>
          rw [step_goes hcall]
          exact (List.append_nil order).symm ▸ h.set hstands

theorem Sound.step (h : Sound cursor order p) (move : Move α) :
    Sound cursor (order ++ (p.turn? move).toList) (p.step move) := by
  cases move with
  | asks items key =>
      show Sound cursor (order ++ []) _
      rw [List.append_nil]
      exact h.ask items key
  | goes n => exact h.go n

theorem Sound.after (h : Sound cursor order p) (moves : List (Move α)) :
    Sound cursor (order ++ p.turns moves) (p.after moves) := by
  induction moves generalizing p order with
  | nil =>
      show Sound cursor (order ++ []) p
      rwa [List.append_nil]
  | cons move rest ih =>
      have hrest := ih (h.step move)
      rw [List.append_assoc] at hrest
      exact hrest

theorem sound_after (cursor : UInt64) (moves : List (Move α)) :
    Sound cursor ((opened cursor : Pool α).turns moves) ((opened cursor).after moves) :=
  (sound_opened cursor).after moves

end Pool
end Selector
end ClusterNode
