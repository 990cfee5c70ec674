import ClusterNode.Proofs.Reconciler.Progress
import ClusterNode.Selector

/-!
# Agreement between nodes

The published list stands for the answer to the query of the last run that has succeeded. Only the
set of keys in that answer decides about the keys of the list and their order, so two nodes that
have been told of the same members publish the same sequence and select the same peers.
-/

namespace ClusterNode
namespace Reconciler

/-!
## While no run succeeds
-/

theorem not_succeeded {r : Reconciler} {id : RunId} {s : RunStage} (hs : r.stage? id = some s)
    (hover : s.isOver = false) : ¬r.Succeeded id := by
  intro ⟨outcome, hend⟩
  rw [hs] at hend
  cases hend
  cases hover

theorem shows_step {r : Reconciler} (hrooted : r.Rooted) {addresses : List Address}
    (hshows : r.Shows addresses) {event : Event}
    (hquiet : forall id, (r.step event).1.Succeeded id -> r.Succeeded id) :
    (r.step event).1.Shows addresses := by
  rcases step_cases hrooted.known event with
    hidle | ⟨peer, hclosed⟩ | ⟨id, s, d, plan, hs, hover, hp, _⟩
  · exact hshows.of_directory_eq hidle.directory
  · rw [hclosed]
    exact Topology.Lists.grows hshows (Directory.grows_close r.directory peer)
  · have hnot : ¬(r.step event).1.Succeeded id := by
      intro hend
      exact not_succeeded hs hover (hquiet id hend)
    exact hp.keeps hs hnot hshows

theorem shows_after {r : Reconciler} (horderly : r.Orderly) (hrooted : r.Rooted)
    {addresses : List Address} (hshows : r.Shows addresses)
    {history : List Event} (hlock : forall event, event ∈ history -> event.TakesLock)
    (hquiet : forall id, (r.after history).Succeeded id -> r.Succeeded id) :
    (r.after history).Shows addresses := by
  induction history generalizing r with
  | nil => exact hshows
  | cons event rest ih =>
      have horderly' := horderly.step (hlock event List.mem_cons_self)
      have hrooted' := hrooted.step event
      have hrest : forall e, e ∈ rest -> e.TakesLock := by
        intro e he
        exact hlock e (List.mem_cons_of_mem event he)
      have hstep : forall id, (r.step event).1.Succeeded id -> r.Succeeded id := by
        intro id ⟨outcome, hend⟩
        exact hquiet id ⟨outcome, stage?_after_of_isOver horderly'.locked hend rfl rest⟩
      refine ih horderly' hrooted' (shows_step hrooted hshows hstep) hrest ?_
      intro id hend
      rcases hquiet id hend with ⟨outcome, hold⟩
      exact ⟨outcome, stage?_step_of_isOver horderly.locked hold rfl event⟩

/-!
## From the answer to the end

A run that has succeeded, and was the last one to do so, has left its list.
-/

/-- The run is on its way to a list that stands for the addresses, has published one, or has been
dropped. -/
def Pursues (r : Reconciler) (id : RunId) (addresses : List Address) : Prop :=
  (exists current plan attempts, r.stage? id = some (.connecting current plan attempts) ∧
      plan.Lists r.directory addresses) ∨
    (r.Succeeded id ∧ r.Shows addresses) ∨
    r.stage? id = some .abandoned

theorem Proceeds.pursues {r r' : Reconciler} {d : Directory} {id : RunId} {plan : Plan}
    {s : RunStage} {addresses : List Address} (h : r.Proceeds d id plan r')
    (hs : r.stage? id = some s) (hplan : plan.Lists d addresses) : r'.Pursues id addresses := by
  rcases h.lists hs hplan with ⟨current, attempts, hstage, hlists⟩ | hend
  · exact Or.inl ⟨current, plan, attempts, hstage, hlists⟩
  · exact Or.inr (Or.inl hend)

theorem Turn.pursues {r r' : Reconciler} {id : RunId} {event : Event} {effects : List Effect}
    (h : Turn r id event r' effects) (hlocked : r.Locked)
    (hknown : forall id, id ∈ r.directory.published -> id < r.directory.peers.length)
    {current : List PeerId} {plan : Plan} {attempts : List Attempt} {addresses : List Address}
    (hs : r.stage? id = some (.connecting current plan attempts))
    (hplan : plan.Lists r.directory addresses) : r'.Pursues id addresses := by
  cases h with
  | rests _ => exact Or.inl ⟨current, plan, attempts, hs, hplan⟩
  | enters kind hid =>
      rw [← hid] at hs
      simp [stage?] at hs
  | starts _ _ hqueue =>
      cases (hlocked.queued id (hqueue ▸ List.mem_cons_self)).symm.trans hs
  | fails e hquerying => cases hquerying.symm.trans hs
  | goes d hopening _ _ =>
      rcases hopening.eq_of_connecting hs with ⟨rfl, rfl⟩
      have hs' : { r with directory := d }.stage? id = some _ := hs
      exact Or.inl ⟨_, _, _, stage?_setStage_self hs' _,
        hplan.grows (hopening.grows hknown) (hopening.published_eq hknown)⟩
  | ends d attempts hopening =>
      rcases hopening.eq_of_connecting hs with ⟨rfl, rfl⟩
      have hs' : { r with directory := d }.stage? id = some _ := hs
      exact Or.inr (Or.inl ⟨succeeded_complete hs' _ _ _, shows_complete
        (hplan.grows (hopening.grows hknown) (hopening.published_eq hknown)) id _ _⟩)
  | leaves hs' hgoing => exact Or.inr (Or.inr (stage?_abandon_self hs' hgoing))

theorem pursues_step {r : Reconciler} (horderly : r.Orderly) (hrooted : r.Rooted)
    {id : RunId} {current : List PeerId} {plan : Plan} {attempts : List Attempt}
    {addresses : List Address} (hs : r.stage? id = some (.connecting current plan attempts))
    (hplan : plan.Lists r.directory addresses) (event : Event) :
    (r.step event).1.Pursues id addresses := by
  by_cases howner : r.owner? event = some id
  · exact (turn_step howner).pursues horderly.locked hrooted.known hs hplan
  · have hstays := (stage?_step_of_owner?_ne howner).trans hs
    have hsame := same_list_of_quiet hrooted.known ((horderly.alone event).quiet hstays)
    exact Or.inl ⟨current, plan, attempts, hstays,
      hplan.grows (grows_after hrooted [event]) hsame.left⟩

/-- A run that has succeeded and was the last one to do so has left its list. -/
theorem shows_of_pursues {r : Reconciler} (horderly : r.Orderly) (hrooted : r.Rooted)
    {id : RunId} {addresses : List Address} (hpursues : r.Pursues id addresses)
    {history : List Event} (hlock : forall event, event ∈ history -> event.TakesLock)
    (hsucceeded : (r.after history).Succeeded id)
    (hlast : forall past future, history = past ++ future -> (r.after past).Succeeded id ->
      forall other, (r.after history).Succeeded other -> (r.after past).Succeeded other) :
    (r.after history).Shows addresses := by
  induction history generalizing r with
  | nil =>
      rcases hpursues with ⟨current, plan, attempts, hs, _⟩ | ⟨_, hshows⟩ | hdropped
      · exact absurd hsucceeded (not_succeeded hs rfl)
      · exact hshows
      · rcases hsucceeded with ⟨outcome, hend⟩
        cases hdropped.symm.trans hend
  | cons event rest ih =>
      rcases hpursues with ⟨current, plan, attempts, hs, hplan⟩ | ⟨hnow, hshows⟩ | hdropped
      · refine ih (horderly.step (hlock event List.mem_cons_self)) (hrooted.step event)
          (pursues_step horderly hrooted hs hplan event)
          (fun e he => hlock e (List.mem_cons_of_mem event he)) hsucceeded ?_
        intro past future hrest
        exact hlast (event :: past) future (by rw [hrest]; rfl)
      · exact shows_after horderly hrooted hshows hlock
          (hlast [] (event :: rest) rfl hnow)
      · have hend := stage?_after_of_isOver horderly.locked hdropped rfl (event :: rest)
        rcases hsucceeded with ⟨outcome, hend'⟩
        cases hend.symm.trans hend'

/-- The last run that has succeeded has been told of these addresses: its query was answered with
them, and once it had succeeded no other run did. -/
def LastRefresh (r : Reconciler) (history : List Event) (queried : List Address) : Prop :=
  exists before id after, history = before ++ Event.answered id (.ok queried) :: after ∧
    (r.after before).stage? id = some .querying ∧
    (r.after history).Succeeded id ∧
    forall past future, history = past ++ future -> (r.after past).Succeeded id ->
      forall other, (r.after history).Succeeded other -> (r.after past).Succeeded other

theorem shows_of_lastRefresh (internalAddress : Option Address) (check : HealthCheck)
    {history : List Event} (hlock : forall event, event ∈ history -> event.TakesLock)
    {queried : List Address}
    (h : LastRefresh (create internalAddress check) history queried) :
    exists selfAddress, ((create internalAddress check).after history).Shows
      (Topology.normalize selfAddress queried) := by
  rcases h with ⟨before, id, after, rfl, hs, hsucceeded, hlast⟩
  have hbefore : forall event, event ∈ before -> event.TakesLock := by
    intro event hevent
    exact hlock event (List.mem_append_left _ hevent)
  have horderly := (orderly_create internalAddress check).run hbefore
  have hrooted := (rooted_create internalAddress check).run before
  rcases answer_proceeds hrooted.known hs queried with ⟨d, plan, hp, hplan⟩
  refine ⟨((create internalAddress check).after before).selfAddress, ?_⟩
  rw [after_append] at hsucceeded ⊢
  have horderly' : (((create internalAddress check).after before).step
      (.answered id (.ok queried))).1.Orderly := horderly.step True.intro
  refine shows_of_pursues horderly' (hrooted.step _) (hp.pursues hs hplan) ?_ hsucceeded ?_
  · intro event hevent
    exact hlock event (List.mem_append_right _ (List.mem_cons_of_mem _ hevent))
  · intro past future hafter hnow other hother
    have hsplit : before ++ Event.answered id (.ok queried) :: after =
        (before ++ Event.answered id (.ok queried) :: past) ++ future := by
      rw [hafter, List.append_assoc]
      rfl
    have hold := hlast _ future hsplit
    rw [after_append, after_append] at hold
    exact hold hnow other hother

end Reconciler

/-!
## Keys and picks

The keys of two normalised answers differ in nothing when the answers have the same keys.
-/

def Directory.keys (d : Directory) : List (String × UInt16) :=
  d.snapshot.map fun p => p.address.key

theorem pairwise_key_normalize (selfAddress : Option Address) (queried : List Address) :
    ((Topology.normalize selfAddress queried).map Address.key).Pairwise Address.KeyBefore := by
  rw [List.pairwise_map]
  exact (Topology.ranked_normalize selfAddress queried).imp fun hab =>
    Address.keyBefore_of_precedes hab.left

theorem key_normalize_congr {self₁ self₂ : Option Address} {queried₁ queried₂ : List Address}
    (h : forall key, key ∈ queried₁.map Address.key <-> key ∈ queried₂.map Address.key) :
    (Topology.normalize self₁ queried₁).map Address.key =
      (Topology.normalize self₂ queried₂).map Address.key := by
  apply List.Pairwise.eq_of_mem_iff (pairwise_key_normalize self₁ queried₁)
    (pairwise_key_normalize self₂ queried₂)
  intro key
  rw [Topology.mem_key_normalize, Topology.mem_key_normalize]
  exact h key

theorem Selector.select_map {α β : Type} (s : Selector) (f : α -> β) (items : List α)
    (key : UInt64) : (s.select (items.map f) key).1 = (s.select items key).1.map f := by
  cases items with
  | nil => rfl
  | cons first rest =>
      show ((first :: rest).map f)[s.index ((first :: rest).map f).length key]? =
        ((first :: rest)[s.index (first :: rest).length key]?).map f
      rw [List.getElem?_map, List.length_map]

namespace Reconciler

theorem lastRefresh_of_single {r : Reconciler} (before after : List Event)
    {queried : List Address} (outcome : RunOutcome)
    (hs : (r.after before).stage? 0 = some .querying)
    (hend : (r.after (before ++ Event.answered 0 (.ok queried) :: after)).runs.map Run.stage =
      [.finished (.ok outcome)]) :
    LastRefresh r (before ++ Event.answered 0 (.ok queried) :: after) queried := by
  have hstage : forall id,
      (r.after (before ++ Event.answered 0 (.ok queried) :: after)).stage? id =
        [RunStage.finished (.ok outcome)][id]? := by
    intro id
    rw [← hend, List.getElem?_map]
    rfl
  refine ⟨before, 0, after, rfl, hs, ⟨outcome, hstage 0⟩, ?_⟩
  intro past future _ hnow other ⟨_, hother⟩
  rw [hstage] at hother
  rcases List.getElem?_eq_some_iff.mp hother with ⟨hlt, _⟩
  rw [Nat.lt_one_iff.mp hlt]
  exact hnow

def insider : List Event :=
  [.registered memberB (.ok ()), .begun .serial, .granted,
    .answered 0 (.ok [memberB, memberA]), .replied 0 0 (.error (.config "unreachable"))]

/-- A node that is no member and reaches both, one of which it has been told of twice. -/
def outsider : List Event :=
  [.begun .serial, .granted, .answered 0 (.ok [memberA, memberB, memberA]),
    .replied 0 1 (.ok 1), .replied 0 0 (.ok 2)]

theorem lastRefresh_insider :
    LastRefresh (create none (NodeHealth.check false)) insider [memberB, memberA] := by
  have hnormalize : Topology.normalize (some (memberB.withSelf true)) [memberB, memberA] =
      [memberA, memberB.withSelf true] :=
    (Address.sort_pair _ _).trans (if_neg (by decide))
  have hafter : (create none (NodeHealth.check false)).after insider =
      ((((((create none (NodeHealth.check false)).registered (memberB.withSelf true)
        (.ok ())).1.begin .serial).1.grant).1.reconcile 0 [memberB, memberA]).1.reply 0 0
          (.error (.config "unreachable"))).1 := rfl
  have hself : ((((create none (NodeHealth.check false)).registered (memberB.withSelf true)
      (.ok ())).1.begin .serial).1.grant).1.selfAddress = some (memberB.withSelf true) := rfl
  apply lastRefresh_of_single [.registered memberB (.ok ()), .begun .serial, .granted]
    [.replied 0 0 (.error (.config "unreachable"))] (.rebuilt 2 0 0)
  · rfl
  · show ((create none (NodeHealth.check false)).after insider).runs.map Run.stage = _
    rw [hafter, reconcile, told, hself, hnormalize]
    rfl

theorem lastRefresh_outsider :
    LastRefresh (create none (NodeHealth.check false)) outsider [memberA, memberB, memberA] := by
  have hnormalize : Topology.normalize none [memberA, memberB, memberA] =
      [memberA, memberB] := (Address.sort_pair _ _).trans (if_pos (by decide))
  have hafter : (create none (NodeHealth.check false)).after outsider =
      ((((((create none (NodeHealth.check false)).begin .serial).1.grant).1.reconcile 0
        [memberA, memberB, memberA]).1.reply 0 1 (.ok 1)).1.reply 0 0 (.ok 2)).1 := rfl
  have hself : (((create none (NodeHealth.check false)).begin .serial).1.grant).1.selfAddress =
      none := rfl
  apply lastRefresh_of_single [.begun .serial, .granted]
    [.replied 0 1 (.ok 1), .replied 0 0 (.ok 2)]
    (.rebuilt 2 0 0)
  · rfl
  · show ((create none (NodeHealth.check false)).after outsider).runs.map Run.stage = _
    rw [hafter, reconcile, told, hself, hnormalize]
    rfl

/-- Nodes whose last refreshes were told of the same members publish the same keys in the same
order, and their selectors pick the same. -/
theorem agreement {internal₁ internal₂ : Option Address} {check₁ check₂ : HealthCheck}
    {history₁ history₂ : List Event} {queried₁ queried₂ : List Address}
    (hlock₁ : forall event, event ∈ history₁ -> event.TakesLock)
    (hlock₂ : forall event, event ∈ history₂ -> event.TakesLock)
    (hlast₁ : LastRefresh (create internal₁ check₁) history₁ queried₁)
    (hlast₂ : LastRefresh (create internal₂ check₂) history₂ queried₂)
    (hkeys : forall key, key ∈ queried₁.map Address.key <-> key ∈ queried₂.map Address.key) :
    ((create internal₁ check₁).after history₁).directory.keys =
        ((create internal₂ check₂).after history₂).directory.keys ∧
      ((create internal₁ check₁).after history₁).directory.keys.Pairwise Address.KeyBefore ∧
      (forall key, key ∈ ((create internal₁ check₁).after history₁).directory.keys <->
        key ∈ queried₁.map Address.key) ∧
      forall (selector : Selector) (key : UInt64),
        (selector.select ((create internal₁ check₁).after history₁).directory.snapshot
            key).1.map (fun p => p.address.key) =
          (selector.select ((create internal₂ check₂).after history₂).directory.snapshot
            key).1.map fun p => p.address.key := by
  rcases shows_of_lastRefresh internal₁ check₁ hlock₁ hlast₁ with ⟨self₁, hshows₁⟩
  rcases shows_of_lastRefresh internal₂ check₂ hlock₂ hlast₂ with ⟨self₂, hshows₂⟩
  have hkeys₁ := Topology.Lists.map_key hshows₁
  have hkeys₂ := Topology.Lists.map_key hshows₂
  have hsame : ((create internal₁ check₁).after history₁).directory.keys =
      ((create internal₂ check₂).after history₂).directory.keys :=
    hkeys₁.trans ((key_normalize_congr hkeys).trans hkeys₂.symm)
  refine ⟨hsame, ?_, ?_, ?_⟩
  · unfold Directory.keys Directory.snapshot
    rw [hkeys₁]
    exact pairwise_key_normalize self₁ queried₁
  · intro key
    unfold Directory.keys Directory.snapshot
    rw [hkeys₁]
    exact Topology.mem_key_normalize self₁ queried₁ key
  · intro selector key
    rw [← Selector.select_map, ← Selector.select_map]
    exact congrArg (fun keys => (selector.select keys key).1) hsame

/-- Only one of the two nodes is a member, and only one of them reaches the other members. -/
theorem agreement_of_insider_and_outsider :
    ((create none (NodeHealth.check false)).after insider).directory.keys =
        ((create none (NodeHealth.check false)).after outsider).directory.keys ∧
      ((create none (NodeHealth.check false)).after insider).directory.keys.Pairwise
        Address.KeyBefore ∧
      (forall key, key ∈ ((create none (NodeHealth.check false)).after insider).directory.keys <->
        key ∈ [memberB, memberA].map Address.key) ∧
      forall (selector : Selector) (key : UInt64),
        (selector.select ((create none (NodeHealth.check false)).after insider).directory.snapshot
            key).1.map (fun p => p.address.key) =
          (selector.select
            ((create none (NodeHealth.check false)).after outsider).directory.snapshot
            key).1.map fun p => p.address.key := by
  apply agreement
  · simp [insider, Event.TakesLock]
  · simp [outsider, Event.TakesLock]
  · exact lastRefresh_insider
  · exact lastRefresh_outsider
  · intro key
    simp only [List.map_cons, List.map_nil, List.mem_cons, List.not_mem_nil]
    tauto

end Reconciler
end ClusterNode
