import ClusterNode.Proofs.Reconciler.Diff
import ClusterNode.Proofs.Reconciler.Queue

/-!
# Whom a run asks for

A run asks for its connects in the step in which it is told of the members, and never again: once
for each peer of its list that has no link, under the address of that peer.
-/

namespace ClusterNode

def Effect.askedBy? (id : RunId) : Effect -> Option (PeerId × Address)
  | ask run _ peer address => if run = id then some (peer, address) else none
  | _ => none

namespace Reconciler

/-- The list to which a run comes that is told of these addresses now. -/
def listOf (r : Reconciler) (queried : List Address) : List PeerId :=
  (r.decision queried).list r.directory.published

def pendingOf (r : Reconciler) (queried : List Address) : List PeerId :=
  Topology.pending (r.staged queried) (r.listOf queried)

/-- Whom a run has asked for. -/
def asked (r : Reconciler) (id : RunId) (history : List Event) : List (PeerId × Address) :=
  (r.trace history).filterMap (Effect.askedBy? id)

variable {r : Reconciler} {id other : RunId} {history before : List Event} {queried : List Address}
  {current : List PeerId} {plan : Plan} {attempts : List Attempt} {n : PeerId} {p : Peer}

/-!
## Who asks
-/

theorem askedBy?_of_isNotice {e : Effect} (h : e.IsNotice) : e.askedBy? id = none := by
  cases e with
  | ask run k peer address => exact h.elim
  | _ => rfl

theorem askedBy?_of_isCommit {e : Effect} (h : e.isCommit = true) : e.askedBy? id = none := by
  cases e with
  | ask run k peer address => cases h
  | _ => rfl

theorem askedBy?_prelude (r : Reconciler) (queried : List Address) :
    (r.prelude queried).filterMap (Effect.askedBy? id) = [] := by
  unfold prelude
  split
  · rfl
  · rfl

theorem askedBy?_complete (r : Reconciler) (other : RunId) (current : List PeerId) (plan : Plan)
    (attempts : List Attempt) :
    (r.complete other current plan attempts).2.filterMap (Effect.askedBy? id) = [] := by
  rw [complete_eq, List.filterMap_eq_nil_iff]
  intro e he
  rcases List.mem_append.mp he with hearly | hreport
  · rcases List.mem_append.mp hearly with hwarning | hcommit
    · exact askedBy?_of_isNotice (isNotice_warnings _ _ e hwarning)
    · exact askedBy?_of_isCommit (isCommit_of_mem_commits hcommit)
  · exact askedBy?_of_isNotice (isNotice_succeed _ _ _ e hreport)

theorem askedBy?_asks (d : Directory) (id : RunId) (peers : List PeerId) :
    (asks d id peers).filterMap (Effect.askedBy? id) =
      peers.filterMap fun n => (d.peer? n).map fun p => (n, p.address) := by
  have hpeer : forall e : PeerId × Nat,
      ((d.peer? e.1).map fun p => Effect.ask id e.2 e.1 p.address).bind (Effect.askedBy? id) =
        (d.peer? e.1).map fun p => (e.1, p.address) := by
    intro e
    cases d.peer? e.1 with
    | none => rfl
    | some p => simp [Effect.askedBy?]
  have hfst : peers = peers.zipIdx.map Prod.fst := (List.zipIdx_map_fst 0 peers).symm
  unfold asks
  conv_rhs => rw [hfst]
  rw [List.filterMap_filterMap, List.filterMap_map]
  exact List.filterMap_congr fun e _ => hpeer e

theorem askedBy?_asks_ne (d : Directory) (hne : other ≠ id) (peers : List PeerId) :
    (asks d other peers).filterMap (Effect.askedBy? id) = [] := by
  rw [List.filterMap_eq_nil_iff]
  intro e he
  rcases exists_of_mem_asks he with ⟨k, peer, p, _, _, rfl⟩
  simp [Effect.askedBy?, hne]

/-!
## Answers of connectors

The last answer ends the run.
-/

def attempted (attempts : List Attempt) (k : Nat) (n : PeerId) (p : Peer)
    (answer : Except ClusterError Channel) : List Attempt :=
  attempts.set k ⟨n, some (p.finishConnect answer).2⟩

section Reply

variable {k : Nat} (hs : r.stage? id = some (.connecting current plan attempts))
  (hk : attempts[k]? = some ⟨n, none⟩) (hp : r.directory.peer? n = some p)
  (answer : Except ClusterError Channel)

include hs hk hp

theorem reply_last (hlast : (attempted attempts k n p answer).all Attempt.isOver = true) :
    r.reply id k answer =
      (((r.connected n answer).complete id current plan (attempted attempts k n p answer)).1,
        .answered n answer ::
          ((r.connected n answer).complete id current plan
            (attempted attempts k n p answer)).2) := by
  have hmodify : r.directory.modify n (fun _ => (p.finishConnect answer).1) =
      (r.connected n answer).directory :=
    Directory.modify_of_peer? hp fun p => (p.finishConnect answer).1
  unfold reply
  rw [hs]
  dsimp only
  rw [hk]
  dsimp only
  rw [hp]
  dsimp only
  rw [hmodify]
  exact if_pos hlast

theorem reply_not_last (hwaits : ¬(attempted attempts k n p answer).all Attempt.isOver = true) :
    r.reply id k answer =
      ((r.connected n answer).setStage id
          (.connecting current plan (attempted attempts k n p answer)),
        [.answered n answer]) := by
  have hmodify : r.directory.modify n (fun _ => (p.finishConnect answer).1) =
      (r.connected n answer).directory :=
    Directory.modify_of_peer? hp fun p => (p.finishConnect answer).1
  unfold reply
  rw [hs]
  dsimp only
  rw [hk]
  dsimp only
  rw [hp]
  dsimp only
  rw [hmodify]
  exact if_neg hwaits

end Reply

theorem askedBy?_reply (r : Reconciler) (other : RunId) (k : Nat)
    (answer : Except ClusterError Channel) :
    (r.reply other k answer).2.filterMap (Effect.askedBy? id) = [] := by
  rcases reply_cases r other k answer with
    hidle | ⟨current, plan, attempts, n, p, hs, hk, hp⟩
  · rw [hidle]
    rfl
  · by_cases hlast : (attempted attempts k n p answer).all Attempt.isOver = true
    · rw [reply_last hs hk hp answer hlast, List.filterMap_cons]
      exact askedBy?_complete _ _ _ _ _
    · rw [reply_not_last hs hk hp answer hlast]
      rfl

/-!
## The list of a run
-/

section Decided

variable (hknown : forall id, id ∈ r.directory.published -> id < r.directory.peers.length)

include hknown

theorem published_staged (queried : List Address) :
    (r.staged queried).published = r.directory.published := by
  by_cases h : r.confirms queried = true
  · rw [staged_of_confirms h]
  · rw [staged_of_not_confirms hknown h]
    rfl

theorem peer?_staged_old (queried : List Address) (hn : n < r.directory.peers.length) :
    (r.staged queried).peer? n = r.directory.peer? n := by
  by_cases h : r.confirms queried = true
  · rw [staged_of_confirms h]
  · rw [staged_of_not_confirms hknown h]
    exact List.getElem?_append_left hn

theorem exists_of_peer?_staged_new (hn : r.directory.peers.length ≤ n)
    (hp : (r.staged queried).peer? n = some p) : exists a, p = Peer.ofAddress a := by
  by_cases h : r.confirms queried = true
  · rw [staged_of_confirms h] at hp
    exact absurd (Directory.lt_length_of_peer? hp) (Nat.not_lt_of_le hn)
  · rw [staged_of_not_confirms hknown h] at hp
    have hp' : (r.directory.peers ++ r.fresh queried)[n]? = some p := hp
    rw [List.getElem?_append_right hn] at hp'
    rcases List.mem_map.mp (List.mem_of_getElem? hp') with ⟨a, _, rfl⟩
    exact ⟨a, rfl⟩

theorem lists_listOf (queried : List Address) :
    Topology.Lists (r.staged queried) (r.listOf queried)
      (Topology.normalize r.selfAddress queried) := by
  have hlists := decision_lists hknown queried
  unfold listOf
  cases hplan : r.decision queried with
  | keep =>
      rw [hplan] at hlists
      have hlists' : Topology.Lists (r.staged queried) (r.staged queried).published _ := hlists
      rw [published_staged hknown] at hlists'
      exact hlists'
  | replace next created kept =>
      rw [hplan] at hlists
      exact hlists

theorem nodup_pendingOf (queried : List Address) : (r.pendingOf queried).Nodup :=
  ((lists_listOf hknown queried).nodup (Topology.ranked_normalize _ _)).filter _

end Decided

theorem mem_pendingOf_iff : n ∈ r.pendingOf queried <->
    n ∈ r.listOf queried ∧ exists p, (r.staged queried).peer? n = some p ∧ p.link = .created := by
  unfold pendingOf Topology.pending
  rw [List.mem_filter, Directory.isCreated_eq_true_iff]

theorem map_fst_asked (d : Directory) (peers : List PeerId) :
    ((Topology.pending d peers).filterMap fun n =>
      (d.peer? n).map fun p => (n, p.address)).map Prod.fst = Topology.pending d peers := by
  rw [List.map_filterMap]
  conv_rhs => rw [← List.filterMap_some (l := Topology.pending d peers)]
  apply List.filterMap_congr
  intro n hn
  rcases (Directory.isCreated_eq_true_iff d n).mp (List.mem_filter.mp hn).right with ⟨p, hp, _⟩
  rw [hp]
  rfl

/-!
## Whom a run asks for

A run that is told of addresses asks for the peers that are to be connected, and nothing else makes
it ask.
-/

theorem askedBy?_notices {effects : List Effect} (h : forall e, e ∈ effects -> e.IsNotice) :
    effects.filterMap (Effect.askedBy? id) = [] := by
  rw [List.filterMap_eq_nil_iff]
  exact fun e he => askedBy?_of_isNotice (h e he)

theorem askedBy?_connect (r : Reconciler) (id : RunId) (current : List PeerId) (plan : Plan)
    (targets : List PeerId) :
    (r.connect id current plan targets).2.filterMap (Effect.askedBy? id) =
      (Topology.pending r.directory targets).filterMap fun n =>
        (r.directory.peer? n).map fun p => (n, p.address) := by
  unfold connect
  cases Topology.pending r.directory targets with
  | nil => exact askedBy?_complete _ _ _ _ _
  | cons first rest => exact askedBy?_asks _ _ _

theorem askedBy?_connect_ne (r : Reconciler) (hne : other ≠ id) (current : List PeerId)
    (plan : Plan) (targets : List PeerId) :
    (r.connect other current plan targets).2.filterMap (Effect.askedBy? id) = [] := by
  unfold connect
  cases Topology.pending r.directory targets with
  | nil => exact askedBy?_complete _ _ _ _ _
  | cons first rest => exact askedBy?_asks_ne _ hne _

theorem askedBy?_told (hs : r.stage? id = some .querying) (queried : List Address) :
    (r.step (.answered id (.ok queried))).2.filterMap (Effect.askedBy? id) =
      (r.pendingOf queried).filterMap fun n =>
        ((r.staged queried).peer? n).map fun p => (n, p.address) := by
  show (r.answer id (.ok queried)).2.filterMap (Effect.askedBy? id) = _
  rw [answer_told hs, List.filterMap_append, askedBy?_prelude, List.nil_append]
  exact askedBy?_connect { r with directory := r.staged queried } id _ _ _

theorem askedBy?_step (event : Event)
    (h : forall queried, event = .answered id (.ok queried) -> r.stage? id ≠ some .querying) :
    (r.step event).2.filterMap (Effect.askedBy? id) = [] := by
  cases event with
  | registered address answer => exact askedBy?_notices (isNotice_registered r _ answer)
  | begun kind => exact askedBy?_notices (isNotice_begin r kind)
  | granted =>
      show r.grant.2.filterMap (Effect.askedBy? id) = []
      unfold grant
      split
      · rfl
      · rfl
  | answered run answer =>
      show (r.answer run answer).2.filterMap (Effect.askedBy? id) = []
      by_cases hs : r.stage? run = some .querying
      · cases answer with
        | error e =>
            have hfail : r.answer run (.error e) = r.fail run e := by
              unfold answer
              rw [hs]
            rw [hfail]
            exact askedBy?_notices (isNotice_fail r run e)
        | ok queried =>
            have hne : run ≠ id := by
              rintro rfl
              exact h queried rfl hs
            rw [answer_told hs, List.filterMap_append, askedBy?_prelude, List.nil_append]
            exact askedBy?_connect_ne _ hne _ _ _
      · rw [answer_of_not_querying hs]
        rfl
  | replied run k answer => exact askedBy?_reply r run k answer
  | dropped run => rfl
  | closed peer => rfl

theorem asked_concat (r : Reconciler) (id : RunId) (history : List Event) (event : Event) :
    r.asked id (history ++ [event]) =
      r.asked id history ++
        ((r.after history).step event).2.filterMap (Effect.askedBy? id) := by
  unfold asked
  rw [trace_concat, List.filterMap_append]

theorem asked_of_not_told (h : forall before queried, ¬Told r history id before queried) :
    r.asked id history = [] := by
  induction history using List.reverseRecOn with
  | nil => rfl
  | append_singleton history event ih =>
      have hbefore : forall before queried, ¬Told r history id before queried :=
        fun before queried htold => h before queried (htold.append [event])
      rw [asked_concat, ih hbefore, List.nil_append]
      apply askedBy?_step
      rintro queried rfl hs
      exact h history queried ⟨⟨[], rfl⟩, hs⟩

/-- A run asks in the step in which it is told of addresses, and never again. -/
theorem asked_of_told (hlocked : r.Locked) (htold : Told r history id before queried) :
    r.asked id history =
      ((r.after before).pendingOf queried).filterMap fun n =>
        (((r.after before).staged queried).peer? n).map fun p => (n, p.address) := by
  rcases htold with ⟨⟨later, rfl⟩, hs⟩
  induction later using List.reverseRecOn with
  | nil =>
      have hnone : r.asked id before = [] := by
        apply asked_of_not_told
        rintro past queried' ⟨⟨between, rfl⟩, hs'⟩
        have hbeyond := stage?_ne_querying_of_answered (hlocked.run past) hs' (.ok queried') between
        rw [← after_append] at hbeyond
        exact hbeyond hs
      rw [asked_concat, hnone, List.nil_append]
      exact askedBy?_told hs queried
  | append_singleton later event ih =>
      have hbeyond := stage?_ne_querying_of_answered (hlocked.run before) hs (.ok queried) later
      rw [← after_append] at hbeyond
      rw [← List.cons_append, ← List.append_assoc, asked_concat, ih, askedBy?_step, List.append_nil]
      exact fun _ _ => hbeyond

end Reconciler
end ClusterNode
