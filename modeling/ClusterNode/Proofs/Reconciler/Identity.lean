import ClusterNode.Proofs.Reconciler.Ledger
import ClusterNode.Proofs.Reconciler.Share

/-!
# The identity of peers

A peer stays the same object under its number as long as every run that succeeds has been told of
its address with its mark, and no longer. What else happens to a history, failed connects, failed
and dropped runs, other members that come and go, does not touch it. An address that was off the
list for a moment comes back with a peer that has never been published before.
-/

namespace ClusterNode
namespace Reconciler

def Publishes (r : Reconciler) (n : PeerId) (p : Peer) : Prop :=
  n ∈ r.directory.published ∧ r.directory.peer? n = some p

/-- The run has been told of an address with this key, and its mark was this one. -/
def Named (r : Reconciler) (history : List Event) (id : RunId) (key : String × UInt16)
    (isSelf : Bool) : Prop :=
  exists before queried a, Told r history id before queried ∧
    a ∈ Topology.normalize (r.after before).selfAddress queried ∧
    a.key = key ∧ a.isSelf = isSelf

theorem Ledger.fit_after {r : Reconciler} (h : Ledger r []) {history : List Event}
    (hserial : forall e, e ∈ history -> e.IsSerial) : (r.after history).directory.Fit := by
  have hledger := h.run hserial
  rw [← hledger.built]
  exact hledger.record.fit

/-!
## Who stays on the list

A decided list takes over those published peers that stand for an address of the answer. So a peer
stays as long as every run that succeeds has been told of it, and once it has left it does not come
back. If a peer has left, one event has brought that about, which is the success of a run that was
not told of it.
-/

theorem mem_list_decision_iff {r : Reconciler} (hfit : r.directory.Fit) (queried : List Address)
    {n : PeerId} {p : Peer} (h : r.Publishes n p) :
    n ∈ (r.decision queried).list r.directory.published <->
      exists a, a ∈ Topology.normalize r.selfAddress queried ∧ Topology.stands p a = true := by
  rcases h with ⟨hn, hp⟩
  rcases hfit.listed with ⟨addresses, hranked, hlists⟩
  have hknown := hlists.known
  by_cases hconfirms : r.confirms queried = true
  · rw [decision_of_confirms hconfirms]
    refine iff_of_true hn ?_
    rcases Topology.exists_of_mem_left ((confirms_iff hknown).mp hconfirms) hn with
      ⟨a, ha, q, hq, hstands⟩
    rw [hp] at hq
    cases hq
    exact ⟨a, ha, hstands⟩
  · rw [decision_of_not_confirms hknown hconfirms]
    show n ∈ r.nextOf queried <-> _
    unfold nextOf
    rw [Topology.mem_numbers_iff hlists hranked _ hn]
    unfold Topology.calledFor
    rw [hp]
    exact List.any_eq_true

section History

variable {r : Reconciler} {history before middle : List Event} {event : Event} {id : RunId}
  {current : List PeerId} {plan : Plan} {r' : Reconciler} {effects : List Effect}
  {n : PeerId} {p q : Peer}

theorem same_of_peer?_after (hrooted : r.Rooted) {earlier later : List Event}
    (hp : (r.after earlier).directory.peer? n = some p)
    (hq : (r.after (earlier ++ later)).directory.peer? n = some q) :
    q.address = p.address ∧ q.isSelf = p.isSelf := by
  have hgrows := grows_after (hrooted.run earlier) later
  rw [← after_append] at hgrows
  rcases hgrows n p hp with ⟨q', hq', hpq⟩
  rw [hq] at hq'
  cases hq'
  exact ⟨hpq.left, hpq.isSelf_eq⟩

theorem Finishes.mem_published_iff (hledger : Ledger r []) (hrooted : r.Rooted)
    (hnew : r.stage? id = none) (hserial : forall e, e ∈ history -> e.IsSerial)
    (h : Finishes (r.after history) id event current plan r' effects)
    (hp : (r.after history).Publishes n p) :
    n ∈ r'.directory.published <->
      Named r (history ++ [event]) id p.address.key p.isSelf := by
  have hlocked := hledger.orderly.locked
  have haccount := (hledger.run hserial).toAccount
  have hlist := h.published_eq (hrooted.run history).known
  rcases h.exists_told hlocked hrooted hnew with
    ⟨before, queried, htold, hcurrent, hplan, middle, hsplit⟩
  have hsame : (r.after before).directory.published = (r.after history).directory.published := by
    rcases h with ⟨d, opening, attempts, hopening, _, _⟩
    rcases haccount.opening hopening with ⟨hnext, hplanned⟩
    rw [← hcurrent, hplanned.left, hnext.built]
    exact hopening.published_eq haccount.known
  rcases Directory.exists_peer?_of_lt ((hrooted.run before).known n (hsame ▸ hp.left)) with ⟨q, hq⟩
  have hpublishes : (r.after before).Publishes n q := ⟨hsame ▸ hp.left, hq⟩
  have hfit : (r.after before).directory.Fit := by
    apply hledger.fit_after
    intro e he
    exact hserial e (hsplit ▸ List.mem_append_left middle he)
  rw [hlist, ← hsame, hplan, mem_list_decision_iff hfit queried hpublishes]
  have hpeer : p.address = q.address ∧ p.isSelf = q.isSelf :=
    same_of_peer?_after hrooted hq (hsplit ▸ hp.right)
  constructor
  · intro ⟨a, ha, hstands⟩
    rcases (Topology.stands_iff q a).mp hstands with ⟨hkey, hself⟩
    refine ⟨before, queried, a, htold, ha, ?_, ?_⟩
    · rw [hpeer.left, hkey]
    · rw [hpeer.right, hself]
  · intro ⟨before', queried', a, htold', ha, hkey, hself⟩
    rcases htold'.unique hlocked htold with ⟨rfl, rfl⟩
    refine ⟨a, ha, (Topology.stands_iff q a).mpr ⟨?_, ?_⟩⟩
    · rw [hkey, hpeer.left]
    · rw [hself, hpeer.right]

theorem Named.of_append (hlocked : r.Locked) {more : List Event} {key : String × UInt16}
    {isSelf : Bool} (h : Named r (history ++ more) id key isSelf) {queried : List Address}
    (htold : Told r history id before queried) : Named r history id key isSelf := by
  rcases h with ⟨before', queried', a, htold', ha, hkey, hself⟩
  rcases htold'.unique hlocked (htold.append more) with ⟨rfl, rfl⟩
  exact ⟨before', queried', a, htold, ha, hkey, hself⟩

/-- Whether a run has been told of an address is a matter of keys: order, repetition and the other
marks of the answer play no part. -/
theorem named_iff (hlocked : r.Locked) {queried : List Address} {key : String × UInt16}
    {isSelf : Bool} (htold : Told r history id before queried) :
    Named r history id key isSelf <-> key ∈ queried.map Address.key ∧
      (isSelf = true <-> (r.after before).selfAddress.map Address.key = some key) := by
  constructor
  · intro ⟨before', queried', a, htold', ha, hkey, hself⟩
    rcases htold'.unique hlocked htold with ⟨rfl, rfl⟩
    constructor
    · rw [← Topology.mem_key_normalize (r.after before').selfAddress]
      exact List.mem_map.mpr ⟨a, ha, hkey⟩
    · rw [← hself, Topology.isSelf_of_mem_normalize ha, Topology.isRegistered_iff, hkey]
  · intro ⟨hmem, hself⟩
    rw [← Topology.mem_key_normalize (r.after before).selfAddress] at hmem
    rcases List.mem_map.mp hmem with ⟨a, ha, rfl⟩
    refine ⟨before, queried, a, htold, ha, rfl, ?_⟩
    rw [Topology.isSelf_of_mem_normalize ha, Bool.eq_iff_iff, Topology.isRegistered_iff]
    exact hself.symm

theorem Finishes.mem_of_named (hledger : Ledger r []) (hrooted : r.Rooted)
    (hnew : r.stage? id = none) (hserial : forall e, e ∈ history -> e.IsSerial)
    (h : Finishes (r.after history) id event current plan r' effects)
    (hp : (r.after history).Publishes n p) {rest : List Event}
    (hnamed : Named r (history ++ [event] ++ rest) id p.address.key p.isSelf) :
    n ∈ r'.directory.published := by
  have hlocked := hledger.orderly.locked
  rcases h.exists_told hlocked hrooted hnew with ⟨before, queried, htold, _, _, _⟩
  rw [h.mem_published_iff hledger hrooted hnew hserial hp]
  exact hnamed.of_append hlocked htold

/-- As long as every run that succeeds has been told of it, a peer stays. -/
theorem mem_published_of_named (hledger : Ledger r []) (hrooted : r.Rooted) (hnew : r.runs = [])
    {earlier later : List Event} (hserial : forall e, e ∈ earlier ++ later -> e.IsSerial)
    (hp : (r.after earlier).Publishes n p)
    (hnamed : forall id, ¬(r.after earlier).Succeeded id ->
      (r.after (earlier ++ later)).Succeeded id ->
      Named r (earlier ++ later) id p.address.key p.isSelf)
    {middle rest : List Event} (hsplit : later = middle ++ rest) :
    n ∈ (r.after (earlier ++ middle)).directory.published := by
  induction middle using List.reverseRecOn generalizing rest with
  | nil =>
      rw [List.append_nil]
      exact hp.left
  | append_singleton middle event ih =>
      have hrest : later = middle ++ event :: rest := by
        rw [hsplit, List.append_assoc]
        rfl
      have hmem := ih hrest
      have hwhole : earlier ++ later = earlier ++ middle ++ [event] ++ rest := by
        rw [hsplit, List.append_assoc, List.append_assoc, List.append_assoc]
      have hstep : r.after (earlier ++ (middle ++ [event])) =
          ((r.after (earlier ++ middle)).step event).1 := by
        rw [← List.append_assoc, after_append]
        rfl
      rw [hstep]
      rcases published_step_cases (hrooted.run (earlier ++ middle)) event with
        ⟨hsame, _⟩ | ⟨id, current, plan, hfinishes⟩
      · rw [hsame]
        exact hmem
      · have hlocked := hledger.orderly.locked
        have hnone := stage?_eq_none_of_nil hnew id
        rcases hfinishes.succeeded with ⟨hnot, hsucceeded⟩
        have hnamed' : Named r (earlier ++ later) id p.address.key p.isSelf := by
          apply hnamed id
          · intro hbefore
            exact hnot (hbefore.append hlocked middle)
          · rw [← after_concat] at hsucceeded
            rw [hwhole]
            exact hsucceeded.append hlocked rest
        rcases Directory.exists_peer?_of_lt
          ((hrooted.run (earlier ++ middle)).known n hmem) with ⟨q, hq⟩
        have hserial' : forall e, e ∈ earlier ++ middle -> e.IsSerial := by
          intro e he
          apply hserial e
          rw [hwhole]
          exact List.mem_append_left _ (List.mem_append_left _ he)
        rcases same_of_peer?_after hrooted hp.right hq with ⟨haddress, hself⟩
        rw [hwhole, ← haddress, ← hself] at hnamed'
        exact hfinishes.mem_of_named hledger hrooted hnone hserial' ⟨hmem, hq⟩ hnamed'

/-- Once a peer has left the list, it does not come back. -/
theorem notMem_published_of_gone (hledger : Ledger r []) {earlier later : List Event}
    (hserial : forall e, e ∈ earlier ++ later -> e.IsSerial)
    (hwas : WasPublished (r.trace earlier) n)
    (hgone : n ∉ (r.after earlier).directory.published) :
    n ∉ (r.after (earlier ++ later)).directory.published := by
  have hserial' : forall e, e ∈ earlier -> e.IsSerial := by
    intro e he
    exact hserial e (List.mem_append_left later he)
  have hbefore := hledger.run hserial'
  have hafter := hledger.run hserial
  rw [List.nil_append] at hbefore hafter
  rw [← hbefore.built] at hgone
  rw [← hafter.built]
  have hsplit : r.trace (earlier ++ later) =
      r.trace earlier ++ (r.after earlier).trace later ++ [] := by
    rw [trace_append, List.append_nil]
  rw [trace_append]
  exact hafter.record.notMem_of_gone hsplit hwas hgone

theorem wasPublished_after {earlier : List Event} (h : WasPublished (r.trace earlier) n)
    (later : List Event) : WasPublished (r.trace (earlier ++ later)) n := by
  rw [trace_append]
  exact h.append _

theorem exists_turning_point {P : List Event -> Prop} {earlier later : List Event}
    (hnot : ¬P earlier) (h : P (earlier ++ later)) :
    exists middle event rest, later = middle ++ event :: rest ∧ ¬P (earlier ++ middle) ∧
      P (earlier ++ middle ++ [event]) := by
  induction later generalizing earlier with
  | nil =>
      rw [List.append_nil] at h
      exact absurd h hnot
  | cons event rest ih =>
      by_cases hnow : P (earlier ++ [event])
      · refine ⟨[], event, rest, rfl, ?_, ?_⟩
        · rwa [List.append_nil]
        · rwa [List.append_nil]
      · have h' : P (earlier ++ [event] ++ rest) := by
          rw [List.append_assoc]
          exact h
        rcases ih hnow h' with ⟨middle, event', rest', rfl, hbefore, hafter⟩
        refine ⟨event :: middle, event', rest', rfl, ?_, ?_⟩
        · rwa [List.append_assoc] at hbefore
        · rwa [List.append_assoc earlier] at hafter

theorem exists_finishes {earlier later : List Event} (hnot : ¬(r.after earlier).Succeeded id)
    (h : (r.after (earlier ++ later)).Succeeded id) :
    exists middle event rest current plan, later = middle ++ event :: rest ∧
      Finishes (r.after (earlier ++ middle)) id event current plan
        (r.after (earlier ++ middle ++ [event]))
        ((r.after (earlier ++ middle)).step event).2 := by
  have hturning := exists_turning_point (P := fun h => (r.after h).Succeeded id) hnot h
  rcases hturning with ⟨middle, event, rest, hsplit, hbefore, hafter⟩
  have hsucceeds : Succeeds r (earlier ++ middle) event id := ⟨hbefore, hafter⟩
  rcases hsucceeds.exists_finishes with ⟨current, plan, hfinishes⟩
  exact ⟨middle, event, rest, current, plan, hsplit, hfinishes⟩

theorem Named.append {key : String × UInt16} {isSelf : Bool} (h : Named r history id key isSelf)
    (more : List Event) : Named r (history ++ more) id key isSelf := by
  rcases h with ⟨before, queried, a, htold, ha, hkey, hself⟩
  exact ⟨before, queried, a, htold.append more, ha, hkey, hself⟩

theorem named_of_mem_published (hledger : Ledger r []) (hrooted : r.Rooted) (hnew : r.runs = [])
    {earlier later : List Event} (hserial : forall e, e ∈ earlier ++ later -> e.IsSerial)
    (hp : (r.after earlier).Publishes n p)
    (hstays : n ∈ (r.after (earlier ++ later)).directory.published)
    (hnot : ¬(r.after earlier).Succeeded id)
    (hsucceeded : (r.after (earlier ++ later)).Succeeded id) :
    Named r (earlier ++ later) id p.address.key p.isSelf := by
  have hnone := stage?_eq_none_of_nil hnew id
  rcases exists_finishes hnot hsucceeded with
    ⟨middle, event, rest, current, plan, hsplit, hfinishes⟩
  have hwhole : earlier ++ later = earlier ++ middle ++ [event] ++ rest := by
    rw [hsplit, List.append_assoc, List.append_assoc]
    rfl
  have hempty : r.directory.published = [] := by
    rw [← hledger.built]
    rfl
  have hwas := wasPublished_of_mem hrooted hempty hp.left
  -- It has been published before, so it can not have been off the list in between.
  have hmem : n ∈ (r.after (earlier ++ middle)).directory.published := by
    by_contra hgone
    have hwhole' : earlier ++ later = earlier ++ middle ++ ([event] ++ rest) := by
      rw [hwhole, List.append_assoc]
    rw [hwhole'] at hserial hstays
    exact notMem_published_of_gone hledger hserial (wasPublished_after hwas middle) hgone hstays
  have hmem' : n ∈ (r.after (earlier ++ middle ++ [event])).directory.published := by
    by_contra hgone
    rw [hwhole] at hserial hstays
    exact notMem_published_of_gone hledger hserial
      (wasPublished_after (wasPublished_after hwas middle) [event]) hgone hstays
  have hserial' : forall e, e ∈ earlier ++ middle -> e.IsSerial := by
    intro e he
    apply hserial e
    rw [hwhole]
    exact List.mem_append_left _ (List.mem_append_left _ he)
  rcases Directory.exists_peer?_of_lt ((hrooted.run (earlier ++ middle)).known n hmem) with
    ⟨q, hq⟩
  rcases same_of_peer?_after hrooted hp.right hq with ⟨haddress, hself⟩
  have hnamed := (hfinishes.mem_published_iff hledger hrooted hnone hserial' ⟨hmem, hq⟩).mp hmem'
  rw [haddress, hself] at hnamed
  rw [hwhole]
  exact hnamed.append rest

theorem eq_of_publishes (hfit : r.directory.Fit) {m : PeerId} (hn : r.Publishes n p)
    (hm : r.Publishes m q) (hkey : p.address.key = q.address.key) : n = m := by
  rcases hfit.listed with ⟨addresses, hranked, hlists⟩
  exact hlists.eq_of_key hranked hn.left hm.left hn.right hm.right hkey

/-!
## Staying and coming back
-/

/-- A published key has the same peer at a later moment if and only if every run that has succeeded
in between was told of it with the same mark, which is a matter of keys alone. If the key was off
the list at some moment in between, the later peer had not been published until then. -/
theorem same_peer_iff (internalAddress : Option Address) (check : HealthCheck)
    {earlier later : List Event}
    (hserial : forall event, event ∈ earlier ++ later -> event.IsSerial)
    {n m : PeerId} {p q : Peer}
    (hp : ((create internalAddress check).after earlier).Publishes n p)
    (hq : ((create internalAddress check).after (earlier ++ later)).Publishes m q)
    (hkey : q.address.key = p.address.key) :
    (m = n <-> forall id, ¬((create internalAddress check).after earlier).Succeeded id ->
      ((create internalAddress check).after (earlier ++ later)).Succeeded id ->
      Named (create internalAddress check) (earlier ++ later) id p.address.key p.isSelf) ∧
    (forall id before queried,
      Told (create internalAddress check) (earlier ++ later) id before queried ->
      (Named (create internalAddress check) (earlier ++ later) id p.address.key p.isSelf <->
        p.address.key ∈ queried.map Address.key ∧
          (p.isSelf = true <-> ((create internalAddress check).after before).selfAddress.map
            Address.key = some p.address.key))) ∧
    forall middle rest, later = middle ++ rest ->
      (forall k s, ((create internalAddress check).after (earlier ++ middle)).Publishes k s ->
        s.address.key ≠ p.address.key) ->
      ¬WasPublished ((create internalAddress check).trace (earlier ++ middle)) m := by
  have hledger := ledger_create internalAddress check
  have hrooted := rooted_create internalAddress check
  refine ⟨⟨?_, ?_⟩, ?_, ?_⟩
  · rintro rfl id hnot hsucceeded
    exact named_of_mem_published hledger hrooted rfl hserial hp hq.left hnot hsucceeded
  · intro hnamed
    have hmem := mem_published_of_named hledger hrooted rfl hserial hp hnamed
      (List.append_nil later).symm
    rcases Directory.exists_peer?_of_lt ((hrooted.run (earlier ++ later)).known n hmem) with
      ⟨s, hs⟩
    have haddress := (same_of_peer?_after hrooted hp.right hs).left
    apply eq_of_publishes (hledger.fit_after hserial) hq ⟨hmem, hs⟩
    rw [hkey, haddress]
  · intro id before queried htold
    exact named_iff hledger.orderly.locked htold
  · rintro middle rest rfl habsent hwas
    rw [← List.append_assoc] at hserial hq
    refine notMem_published_of_gone hledger hserial hwas ?_ hq.left
    intro hmem
    rcases Directory.exists_peer?_of_lt ((hrooted.run (earlier ++ middle)).known m hmem) with
      ⟨s, hs⟩
    apply habsent m s ⟨hmem, hs⟩
    rw [← hkey, (same_of_peer?_after hrooted hs hq.right).left]

end History

def discovery : List Event :=
  [.begun .serial, .granted, .answered 0 (.ok [memberB]),
    .replied 0 0 (.error (.config "unreachable"))]

def confirmation : List Event :=
  [.begun .serial, .granted, .answered 1 (.error (.config "no answer")),
    .begun .serial, .granted, .dropped 2,
    .begun .serial, .granted, .answered 3 (.ok [memberB.withInternal true, memberB]),
    .replied 3 0 (.ok 1)]

theorem same_peer_iff_of_confirmation :
    (forall event, event ∈ discovery ++ confirmation -> event.IsSerial) ∧
    ((create none (NodeHealth.check false)).after discovery).Publishes 0
      { address := memberB, link := .created } ∧
    ((create none (NodeHealth.check false)).after (discovery ++ confirmation)).Publishes 0
      { address := memberB, link := .connected 1 } ∧
    (0 = 0 <-> forall id, ¬((create none (NodeHealth.check false)).after discovery).Succeeded id ->
      ((create none (NodeHealth.check false)).after (discovery ++ confirmation)).Succeeded id ->
      Named (create none (NodeHealth.check false)) (discovery ++ confirmation) id memberB.key
        false) := by
  have hserial : forall event, event ∈ discovery ++ confirmation -> event.IsSerial := by
    simp [discovery, confirmation, Event.IsSerial]
  have hfound : ((create none (NodeHealth.check false)).after discovery).Publishes 0
      { address := memberB, link := .created } := by
    constructor
    · decide +kernel
    · decide +kernel
  have hreached :
      ((create none (NodeHealth.check false)).after (discovery ++ confirmation)).Publishes 0
        { address := memberB, link := .connected 1 } := by
    constructor
    · decide +kernel
    · decide +kernel
  exact ⟨hserial, hfound, hreached,
    (same_peer_iff none (NodeHealth.check false) hserial hfound hreached rfl).left⟩

end Reconciler
end ClusterNode
