import ClusterNode.Proofs.Membership.Registration
import ClusterNode.Proofs.Reconciler.SelfAddress

/-!
# The local peer of a fixed membership

A fixed membership answers registrations and queries out of the same entries. So the warning of a
registration foretells the list of the next run: without it exactly one peer of the list is local,
and that one has the registered address; with it there is none.
-/

namespace ClusterNode

/-- The answers of a fixed membership whose member file reads as `read`. -/
def Event.IsAnswerOf (m : FixedMembers) (read : FileReader) (internalAddress : Option Address) :
    Event -> Prop
  | registered address answer =>
      answer = (m.register read (Address.handed internalAddress address)).1
  | answered _ answer => answer = (m.query read).1
  | _ => True

def Directory.localPeers (d : Directory) : List Peer := d.snapshot.filter Peer.isSelf

/-- What the warning of a registration says about a list of peers. -/
structure FixedMembers.Foretells (m : FixedMembers) (read : FileReader) (handed : Address)
    (d : Directory) : Prop where
  /-- Without it exactly one peer is this node, and it has the registered address. -/
  quiet : notListed handed ∉ (m.register read handed).2 ->
    exists p, d.localPeers = [p] ∧ p.address.key = handed.key
  /-- With it none is. -/
  warned : notListed handed ∈ (m.register read handed).2 -> d.localPeers = []

namespace Reconciler

variable {r : Reconciler} {id : RunId} {history past later before : List Event}
  {event : Event} {address s : Address} {queried : List Address} {m : FixedMembers}
  {read : FileReader}

/-!
## Local peers and the answer

A run that is crossed by no other leaves a list that stands for the addresses that it was told of,
with the mark where this node was then. So the list has a local peer if the registered address is in
the answer.
-/

theorem Shows.localPeers (h : r.Shows (Topology.normalize (some s) queried)) :
    (s.key ∈ queried.map Address.key ->
        exists p, r.directory.localPeers = [p] ∧ p.address.key = s.key) ∧
      (s.key ∉ queried.map Address.key -> r.directory.localPeers = []) := by
  have hstands : List.Forall₂ (fun p a => Topology.stands p a = true) r.directory.snapshot
      (Topology.normalize (some s) queried) := Topology.Lists.resolve h
  have hranked := Topology.ranked_of_stands hstands (Topology.ranked_normalize _ _)
  have hone : r.directory.localPeers.length ≤ 1 :=
    Directory.length_filter_le_one (hranked.imp fun hpq => hpq.right)
  rcases NodeHealth.find?_isSelf_cases hstands with
    ⟨hnone, hmissing⟩ | ⟨p, _, hfind, hself, hkey, hmember⟩
  · have hmissing : s.key ∉ queried.map Address.key := by
      rw [← List.mem_toFinset]
      exact hmissing s rfl
    refine ⟨fun hmem => absurd hmem hmissing, fun _ => ?_⟩
    exact List.filter_eq_nil_iff.mpr (List.find?_eq_none.mp hnone)
  · cases hself
    have hmember : s.key ∈ queried.map Address.key := List.mem_toFinset.mp hmember
    have hp : p ∈ r.directory.localPeers :=
      List.mem_filter.mpr ⟨List.mem_of_find?_eq_some hfind, List.find?_some hfind⟩
    refine ⟨fun _ => ⟨p, ?_, hkey⟩, fun hmissing => absurd hmember hmissing⟩
    rcases List.length_eq_one_iff.mp (Nat.le_antisymm hone (List.length_pos_of_mem hp)) with
      ⟨q, hlocal⟩
    rw [hlocal] at hp ⊢
    rw [List.mem_singleton.mp hp]

theorem Succeeds.exists_shows (hlocked : r.Locked) (hrooted : r.Rooted)
    (hnew : r.stage? id = none) (huncrossed : Uncrossed r history)
    (h : Succeeds r history event id) :
    exists before queried, Told r (history ++ [event]) id before queried ∧
      (r.after (history ++ [event])).Shows
        (Topology.normalize (r.after before).selfAddress queried) := by
  rcases h.exists_finishes with ⟨current, plan, hfinishes⟩
  rcases hfinishes.sameList hlocked hrooted hnew huncrossed with
    ⟨before, queried, htold, rfl, hsame⟩
  refine ⟨before, queried, htold, ?_⟩
  have hpublished := hfinishes.published_eq (hrooted.run history).known
  rw [hsame.left] at hpublished
  have hlists := lists_listOf (hrooted.run before).known queried
  unfold Shows
  rw [hpublished]
  exact hlists.grows (htold.grows hrooted)

/-!
## Runs that are told after a registration

A run that is not at its connects when an address is registered is told later than that.
-/

/-- A run that is not at its connects when an address is registered is told later than that. -/
theorem Succeeds.told_since (hlocked : r.Locked) {answer : Except ClusterError Unit}
    (h : Succeeds r (past ++ .registered address answer :: later) event id)
    (hfresh : forall current plan attempts,
      (r.after past).stage? id ≠ some (.connecting current plan attempts))
    (htold : Told r (past ++ .registered address answer :: later ++ [event]) id before queried) :
    exists middle, middle <+: later ∧ before = past ++ .registered address answer :: middle := by
  rcases htold with ⟨⟨rest, hsplit⟩, hquerying⟩
  rw [List.append_assoc, List.cons_append] at hsplit
  rcases List.append_eq_append_iff.mp hsplit with ⟨middle, rfl, hrest⟩ | ⟨middle, hpast, hrest⟩
  · cases middle with
    | nil => cases hrest
    | cons first middle =>
        rw [List.cons_append] at hrest
        rcases List.cons.inj hrest with ⟨rfl, hlater⟩
        refine ⟨middle, ?_, rfl⟩
        apply List.prefix_of_prefix_length_le ⟨_, hlater.symm⟩ (List.prefix_append later [event])
        have hlength := congrArg List.length hlater
        simp only [List.length_append, List.length_cons, List.length_nil] at hlength
        omega
  · exfalso
    cases middle with
    | nil => cases hrest
    | cons first middle =>
        rw [List.cons_append] at hrest
        rcases List.cons.inj hrest with ⟨rfl, _⟩
        have htold : Told r past id before queried := ⟨⟨middle, hpast⟩, hquerying⟩
        rcases h.connecting hlocked htold (List.prefix_append past _) with
          ⟨current, plan, attempts, hconnecting⟩
        exact hfresh current plan attempts hconnecting

/-!
## The next run after a registration

The address that was handed over is still that of this node when the run is told.
-/

/-- A run that had not been told of the members when the address was registered comes to its end: it
has begun since then, or was still waiting or querying. Since the registration the member file has
stayed as it is and no other address has been accepted. No list is published while another run is at
its connects, as always when all runs take the lock. -/
structure NextRefresh (m : FixedMembers) (read : FileReader) (r : Reconciler)
    (past : List Event) (address : Address) (later : List Event) (event : Event) (id : RunId) :
    Prop where
  answers : forall e, e ∈ .registered address (.ok ()) :: later ++ [event] ->
    e.IsAnswerOf m read r.internalAddress
  last : forall e, e ∈ later -> e.accepted? = none
  fresh : forall current plan attempts,
    (r.after past).stage? id ≠ some (.connecting current plan attempts)
  uncrossed : Uncrossed r (past ++ .registered address (.ok ()) :: later)
  succeeds : Succeeds r (past ++ .registered address (.ok ()) :: later) event id

theorem selfAddress_since {middle : List Event}
    (hlast : forall e, e ∈ middle -> e.accepted? = none) :
    (r.after (past ++ .registered address (.ok ()) :: middle)).selfAddress =
      some (Address.handed r.internalAddress address) := by
  have hnone : middle.filterMap Event.accepted? = [] := List.filterMap_eq_nil_iff.mpr hlast
  rw [selfAddress_after, List.filterMap_append, List.filterMap_cons, hnone]
  simp [Event.accepted?]

theorem NextRefresh.foretells (hlocked : r.Locked) (hrooted : r.Rooted) (hnew : r.runs = [])
    (h : NextRefresh m read r past address later event id) :
    m.Foretells read (Address.handed r.internalAddress address)
      (r.after (past ++ .registered address (.ok ()) :: later ++ [event])).directory := by
  rcases h.succeeds.exists_shows hlocked hrooted (stage?_eq_none_of_nil hnew id) h.uncrossed with
    ⟨before, queried, htold, hshows⟩
  rcases h.succeeds.told_since hlocked h.fresh htold with ⟨middle, hmiddle, rfl⟩
  rw [selfAddress_since fun e he => h.last e (hmiddle.mem he)] at hshows
  have hquery : (m.query read).1 = .ok queried := by
    rcases htold with ⟨⟨rest, hsplit⟩, _⟩
    refine (h.answers (.answered id (.ok queried)) ?_).symm
    rw [List.append_assoc, List.append_assoc] at hsplit
    rw [List.append_cancel_left hsplit]
    exact List.mem_append_right _ List.mem_cons_self
  have hwarns := ((m.seesSame read (Address.handed r.internalAddress address)).warns queried
    hquery).right
  rcases hshows.localPeers with ⟨hlisted, hmissing⟩
  constructor
  · intro hquiet
    apply hlisted
    by_contra hmem
    exact hquiet (hwarns.mpr hmem)
  · intro hwarned
    exact hmissing (hwarns.mp hwarned)

/-- A registration and a query see the same members, and the warning of an accepted registration
foretells whether the list of the next run has a local peer. -/
theorem register_foretells (m : FixedMembers) (read : FileReader) :
    (forall address, m.SeesSame read address) ∧
    forall {internalAddress : Option Address} {check : HealthCheck} {past : List Event}
      {address : Address} {later : List Event} {event : Event} {id : RunId},
      NextRefresh m read (create internalAddress check) past address later event id ->
        m.Foretells read (Address.handed internalAddress address)
          ((create internalAddress check).after
            (past ++ .registered address (.ok ()) :: later ++ [event])).directory := by
  refine ⟨m.seesSame read, ?_⟩
  intro internalAddress check past address later event id h
  exact h.foretells (locked_create internalAddress check) (rooted_create internalAddress check) rfl

def couple : FixedMembers := .ofList ["a:1?weight=2, b"] 7

def waitingRun : List Event := [.begun .serial]

theorem nextRefresh_of_couple :
    NextRefresh couple (fun _ => .error .notFound) (create none (NodeHealth.check true)) waitingRun
      memberA [.granted, .answered 0 (.ok [memberA, memberB])] (.replied 0 0 (.ok 1)) 0 := by
  have hregister : (couple.register (fun _ => .error .notFound)
      (memberA.withSelf true)).1 = .ok () := by
    decide +kernel
  have hquery : (couple.query fun _ => .error .notFound).1 = .ok [memberA, memberB] := by
    decide +kernel
  constructor
  · simp only [List.cons_append, List.nil_append, List.forall_mem_cons]
    exact ⟨hregister.symm, True.intro, hquery.symm, True.intro, List.forall_mem_nil _⟩
  · simp [Event.accepted?]
  · intro current plan attempts hconnecting
    cases hconnecting
  · apply uncrossed_of_takesLock (orderly_create none (NodeHealth.check true))
    simp [waitingRun, Event.TakesLock]
  · constructor
    · rw [← succeeded_iff]
      cbv
      decide
    · rw [← succeeded_iff]
      cbv

theorem register_foretells_of_couple :
    NextRefresh couple (fun _ => .error .notFound) (create none (NodeHealth.check true)) waitingRun
      memberA [.granted, .answered 0 (.ok [memberA, memberB])] (.replied 0 0 (.ok 1)) 0 ∧
    exists p, ((create none (NodeHealth.check true)).after
      (waitingRun ++ .registered memberA (.ok ()) ::
        [.granted, .answered 0 (.ok [memberA, memberB])] ++
          [.replied 0 0 (.ok 1)])).directory.localPeers = [p] ∧ p.address.key = ("a", 1) := by
  refine ⟨nextRefresh_of_couple, ?_⟩
  have hquiet : FixedMembers.notListed (memberA.withSelf true) ∉
      (couple.register (fun _ => .error .notFound) (memberA.withSelf true)).2 := by
    decide +kernel
  have hforetells := (register_foretells couple fun _ => .error .notFound).right
    nextRefresh_of_couple
  exact hforetells.quiet hquiet

end Reconciler
end ClusterNode
