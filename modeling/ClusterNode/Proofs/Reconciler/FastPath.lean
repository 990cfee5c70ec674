import ClusterNode.Proofs.Reconciler.Lockstep

/-!
# When a run leaves the list as it is

The list and the answer of the membership are compared place by place. Both are in the strict order
of hosts and ports, so the comparison comes out as that of two sets of triples: in what order, how
often and with which internal flag an address is named makes no difference. If the sets are the
same, a rebuild would have come to the same; otherwise the new list differs in its triples.
-/

namespace ClusterNode
namespace Topology

/-!
## Sets of triples

Triples are ordered by host and port. The keys of an answer and that of this node decide about them.
-/

def TripleBefore (t u : String × UInt16 × Bool) : Prop :=
  Address.KeyBefore (t.1, t.2.1) (u.1, u.2.1)

instance : Std.Irrefl TripleBefore where
  irrefl t h := Std.Irrefl.irrefl (r := Address.KeyBefore) (t.1, t.2.1) h

instance : Std.Antisymm TripleBefore where
  antisymm t u htu hut := by
    have hkey : (t.1, t.2.1) = (u.1, u.2.1) :=
      Std.Antisymm.antisymm (r := Address.KeyBefore) _ _ htu hut
    unfold TripleBefore at htu
    rw [hkey] at htu
    exact absurd htu (Std.Irrefl.irrefl (r := Address.KeyBefore) _)

def marked (selfAddress : Option Address) (queried : List Address) : List Address :=
  queried.map fun a => a.withSelf (isRegistered selfAddress a)

def tripleOf (selfAddress : Option Address) (key : String × UInt16) : String × UInt16 × Bool :=
  (key.1, key.2, decide (selfAddress.map Address.key = some key))

variable {selfAddress other : Option Address} {queried again : List Address}
  {addresses : List Address}

theorem triple_of_marked {a : Address} (h : a.isSelf = isRegistered selfAddress a) :
    a.triple = tripleOf selfAddress a.key := by
  have hself : isRegistered selfAddress a =
      decide (selfAddress.map Address.key = some a.key) := by
    rw [Bool.eq_iff_iff, isRegistered_iff, decide_eq_true_iff]
  rw [Address.triple, h, hself]
  rfl

theorem triples_marked (selfAddress : Option Address) (queried : List Address) :
    (marked selfAddress queried).map Address.triple =
      (queried.map Address.key).map (tripleOf selfAddress) := by
  rw [marked, List.map_map, List.map_map]
  apply List.map_congr_left
  intro a _
  have hmark : (a.withSelf (isRegistered selfAddress a)).isSelf =
      isRegistered selfAddress (a.withSelf (isRegistered selfAddress a)) := by
    rw [Address.isSelf_withSelf, Bool.eq_iff_iff, isRegistered_iff, isRegistered_iff,
      Address.key_withSelf]
  have htriple := triple_of_marked hmark
  rw [Address.key_withSelf] at htriple
  exact htriple

theorem triples_normalize (selfAddress : Option Address) (queried : List Address) :
    (normalize selfAddress queried).map Address.triple =
      ((normalize selfAddress queried).map Address.key).map (tripleOf selfAddress) := by
  rw [List.map_map]
  apply List.map_congr_left
  intro a ha
  exact triple_of_marked (isSelf_of_mem_normalize ha)

theorem mem_triples_normalize {t : String × UInt16 × Bool} :
    t ∈ (normalize selfAddress queried).map Address.triple <->
      t ∈ (marked selfAddress queried).map Address.triple := by
  rw [triples_normalize, triples_marked, List.mem_map, List.mem_map]
  simp only [mem_key_normalize]

theorem triples_congr (hself : other.map Address.key = selfAddress.map Address.key)
    (h : forall key, key ∈ again.map Address.key <-> key ∈ queried.map Address.key) :
    (normalize other again).map Address.triple =
      (normalize selfAddress queried).map Address.triple := by
  have hkeys : (normalize other again).map Address.key =
      (normalize selfAddress queried).map Address.key := key_normalize_congr h
  have htriple : tripleOf other = tripleOf selfAddress := by
    funext key
    rw [tripleOf, tripleOf, hself]
  rw [triples_normalize, triples_normalize, hkeys, htriple]

theorem pairwise_triples (h : Ranked addresses) :
    (addresses.map Address.triple).Pairwise TripleBefore := by
  rw [List.pairwise_map]
  exact h.imp fun hab => Address.keyBefore_of_precedes hab.left

end Topology

namespace Reconciler

variable {r : Reconciler} {id : RunId} {history before : List Event} {event : Event}
  {queried : List Address} {addresses : List Address}

/-- The published peers and the answer have the same hosts, ports and marks. -/
def Matches (r : Reconciler) (queried : List Address) : Prop :=
  forall t, t ∈ r.directory.snapshot.map Peer.triple <->
    t ∈ (Topology.marked r.selfAddress queried).map Address.triple

theorem Shows.triples_eq (h : r.Shows addresses) :
    r.directory.snapshot.map Peer.triple = addresses.map Address.triple := by
  have hknown := Topology.Lists.known h
  exact (Topology.sameTopology_iff_triples _ _).mp
    ((Topology.sameTopology_resolve_iff hknown addresses).mpr h)

/-- The comparison of the two sequences is that of the two sets. -/
theorem confirms_iff_matches (hfit : r.directory.Fit) (queried : List Address) :
    r.confirms queried = true <-> r.Matches queried := by
  rcases hfit.listed with ⟨listed, hranked, hlists⟩
  have hlisted : r.directory.snapshot.map Peer.triple = listed.map Address.triple :=
    Shows.triples_eq hlists
  have hnormalize := Topology.ranked_normalize r.selfAddress queried
  unfold confirms Matches
  rw [Topology.sameTopology_iff_triples]
  simp only [← Topology.mem_triples_normalize]
  constructor
  · intro heq t
    rw [heq]
  · intro hmem
    rw [hlisted] at hmem ⊢
    exact List.Pairwise.eq_of_mem_iff (Topology.pairwise_triples hranked)
      (Topology.pairwise_triples hnormalize) hmem

/-!
## The list at the end of a run

Until it comes to its end a run has before it the list that it has seen, and a run that is told of
the published peers does not publish. So the list of the last run that has succeeded is confirmed by
an answer with the same keys, as long as this node has the address that it had then.
-/

section End

variable (hledger : Ledger r []) (hrooted : r.Rooted) (hnew : r.stage? id = none)
  (hserial : forall e, e ∈ history -> e.IsSerial) (h : Succeeds r history event id)
  (htold : Told r (history ++ [event]) id before queried)

include hledger hrooted hnew hserial h htold

theorem Succeeds.sameList_before : SameList (r.after before) (r.after history) := by
  have hlocked := hledger.orderly.locked
  have huncrossed := uncrossed_of_takesLock hledger.orderly fun e he => (hserial e he).takesLock
  rcases h.exists_finishes with ⟨current, plan, hfinishes⟩
  rcases hfinishes.sameList hlocked hrooted hnew huncrossed with
    ⟨before', queried', htold', _, hsame⟩
  rcases htold'.unique hlocked htold with ⟨rfl, rfl⟩
  exact hsame

theorem Succeeds.published_told :
    (r.after (history ++ [event])).directory.published = (r.after before).listOf queried := by
  have hpublished := h.published_eq hledger.orderly.locked hrooted hnew htold
  rw [(h.sameList_before hledger hrooted hnew hserial htold).left] at hpublished
  exact hpublished

theorem Succeeds.shows_told : (r.after (history ++ [event])).Shows
    (Topology.normalize (r.after before).selfAddress queried) := by
  have hlists := lists_listOf (hrooted.run before).known queried
  unfold Shows
  rw [h.published_told hledger hrooted hnew hserial htold]
  exact hlists.grows (htold.grows hrooted)

theorem Succeeds.sameList_of_confirms (hconfirms : (r.after before).confirms queried = true) :
    SameList (r.after before) (r.after (history ++ [event])) := by
  have hlocked := hledger.orderly.locked
  have hknown := (hrooted.run history).known
  have hsame := h.sameList_before hledger hrooted hnew hserial htold
  rcases h.exists_finishes with ⟨current, plan, hfinishes⟩
  rcases hfinishes.exists_told hlocked hrooted hnew with ⟨before', queried', htold', _, hplan, _⟩
  rcases htold'.unique hlocked htold with ⟨rfl, rfl⟩
  rw [decision_of_confirms hconfirms] at hplan
  subst hplan
  rcases hfinishes with ⟨d, opening, attempts, hopening, hafter, _⟩
  refine hsame.trans ?_
  unfold SameList
  rw [hafter, complete_keep, directory_conclude]
  exact ⟨hopening.published_eq hknown, hopening.edition_eq hknown⟩

/-- The list of the last run that has succeeded is confirmed by an answer with the same keys, as
long as this node has the address that it had then. -/
theorem Succeeds.confirms_later {middle : List Event} {known : List Address}
    (hlater : NoneSucceeds r (history ++ [event]) middle)
    (hself : (r.after (history ++ [event] ++ middle)).selfAddress.map Address.key =
      (r.after before).selfAddress.map Address.key)
    (hkeys : forall key, key ∈ known.map Address.key <-> key ∈ queried.map Address.key) :
    (r.after (history ++ [event] ++ middle)).confirms known = true := by
  have hshows := h.shows_told hledger hrooted hnew hserial htold
  have hlist := (hlater.same_list hledger.orderly.locked hrooted).left
  have hstill : (r.after (history ++ [event] ++ middle)).Shows
      (Topology.normalize (r.after before).selfAddress queried) := by
    unfold Shows
    rw [hlist, after_append]
    exact Topology.Lists.grows hshows (grows_after (hrooted.run _) middle)
  unfold confirms
  rw [Topology.sameTopology_iff_triples, hstill.triples_eq]
  exact (Topology.triples_congr hself hkeys).symm

end End

/-!
## The path of a run
-/

/-- The path that a run takes that was told of these addresses after `before`. -/
structure ChoosesPath (r : Reconciler) (history : List Event) (id : RunId) (before : List Event)
    (queried : List Address) : Prop where
  /-- However the connectors answer, it comes to its end. -/
  ends : forall connector : Nat -> Except ClusterError Channel, exists later,
    (forall e, e ∈ later -> exists k, e = .replied id k (connector k)) ∧
      (r.after (before ++ .answered id (.ok queried) :: later)).Succeeded id
  /-- Its outcome says that nothing has changed exactly if the triples are the same. -/
  unchanged : forall result, (r.after history).stage? id = some (.finished result) ->
    (result = .ok .unchanged <-> (r.after before).Matches queried)
  /-- Then the list is the same one, under the same number. -/
  keeps : (r.after before).Matches queried -> forall past event rest,
    history = past ++ event :: rest -> Succeeds r past event id ->
      SameList (r.after before) (r.after (past ++ [event]))
  /-- But for that a rebuild would have done the same. -/
  agrees : (r.after before).Matches queried -> forall later,
    (forall e, e ∈ later -> e.IsSerial) ->
      ((r.after before).step (.answered id (.ok queried))).1.Lasts id later ->
        Beside id ((r.after before).after (.answered id (.ok queried) :: later))
          ((r.after before).trace (.answered id (.ok queried) :: later))
          (((r.after before).rebuild id ((r.after before).told queried)).1.after later)
          (((r.after before).rebuild id ((r.after before).told queried)).2 ++
            ((r.after before).rebuild id ((r.after before).told queried)).1.trace later)
  /-- Otherwise the new list differs from the old one in its triples. -/
  differs : ¬(r.after before).Matches queried -> forall past event rest,
    history = past ++ event :: rest -> Succeeds r past event id ->
      (r.after (past ++ [event])).directory.snapshot.map Peer.triple ≠
        (r.after before).directory.snapshot.map Peer.triple
  /-- If the last run that has succeeded was told of the same hosts and ports, and the address of
  this node is what it was, then nothing changes. -/
  repeats : forall past event middle first earlier known, before = past ++ event :: middle ->
    Succeeds r past event first -> NoneSucceeds r (past ++ [event]) middle ->
      Told r (past ++ [event]) first earlier known ->
        (r.after before).selfAddress.map Address.key =
          (r.after earlier).selfAddress.map Address.key ->
        (forall key, key ∈ queried.map Address.key <-> key ∈ known.map Address.key) ->
          (r.after before).Matches queried

theorem choosesPath_of_told (hledger : Ledger r []) (hrooted : r.Rooted) (hnew : r.runs = [])
    (hserial : forall e, e ∈ history -> e.IsSerial) (htold : Told r history id before queried) :
    ChoosesPath r history id before queried := by
  have hlocked := hledger.orderly.locked
  have hnone := fun run => stage?_eq_none_of_nil hnew run
  have hearlier : forall e, e ∈ before -> e.IsSerial := by
    rcases htold with ⟨⟨later, rfl⟩, _⟩
    exact fun e he => hserial e (List.mem_append_left _ he)
  have hfit := hledger.fit_after hearlier
  have hmatches := confirms_iff_matches hfit queried
  -- Each moment at which the run succeeds is one at which it has been told.
  have hmoment : forall {past event rest}, history = past ++ event :: rest ->
      Succeeds r past event id -> (forall e, e ∈ past -> e.IsSerial) ∧
        Told r (past ++ [event]) id before queried := by
    rintro past event rest rfl hsucceeds
    exact ⟨fun e he => hserial e (List.mem_append_left _ he),
      hsucceeds.told hlocked hrooted (hnone id) htold⟩
  constructor
  · exact exists_end_of_told hlocked hrooted hnew htold.right queried
  · intro result hresult
    rcases htold with ⟨⟨later, rfl⟩, hquerying⟩
    rcases end_of_told hlocked hrooted hnew hquerying hresult with ⟨rfl, _⟩
    rw [← hmatches]
    unfold outcomeOf decision
    split
    · rename_i hconfirms
      exact iff_of_true rfl hconfirms
    · rename_i hnot
      exact iff_of_false nofun hnot
  · intro hsame past event rest hsplit hsucceeds
    rcases hmoment hsplit hsucceeds with ⟨hserial', htold'⟩
    exact hsucceeds.sameList_of_confirms hledger hrooted (hnone id) hserial' htold'
      (hmatches.mpr hsame)
  · intro hsame later hlater hlasts
    have horderly : (r.after before).Orderly :=
      hledger.orderly.run fun e he => (hearlier e he).takesLock
    exact beside_after horderly htold.right hfit (hmatches.mpr hsame) hlater hlasts
  · intro hother past event rest hsplit hsucceeds
    rcases hmoment hsplit hsucceeds with ⟨hserial', htold'⟩
    have hshows := hsucceeds.shows_told hledger hrooted (hnone id) hserial' htold'
    rw [hshows.triples_eq]
    intro heq
    apply hother
    rw [← hmatches]
    exact (Topology.sameTopology_iff_triples _ _).mpr heq.symm
  · intro past event middle first earlier known hsplit hsucceeds hlater htold' hself hkeys
    have hsplit' : before = past ++ [event] ++ middle := by
      rw [hsplit]
      simp
    subst hsplit'
    have hserial' : forall e, e ∈ past -> e.IsSerial :=
      fun e he => hearlier e (List.mem_append_left _ (List.mem_append_left _ he))
    rw [← hmatches]
    exact hsucceeds.confirms_later hledger hrooted (hnone first) hserial' htold' hlater hself hkeys

/-- A run that is told of the members leaves the list as it is if the published peers have the same
hosts, ports and marks, and then a rebuild would only have published the same list once more.
Otherwise it publishes a list that differs in these. -/
theorem fast_path_agrees (internalAddress : Option Address) (check : HealthCheck)
    {history before : List Event} {id : RunId} {queried : List Address}
    (hserial : forall e, e ∈ history -> e.IsSerial)
    (htold : Told (create internalAddress check) history id before queried) :
    ChoosesPath (create internalAddress check) history id before queried :=
  choosesPath_of_told (ledger_create _ _) (rooted_create _ _) rfl hserial htold

def settlement : List Event :=
  [.registered memberB (.ok ()), .begun .serial, .granted,
    .answered 0 (.ok [memberA, memberB]), .replied 0 0 (.ok 1),
    .begun .serial, .granted]

/-- They are named again, in another order, one of them twice, and with other flags. -/
def resettled : List Address :=
  [memberB.withInternal true, (memberA.withInternal true).withSelf true, memberB.withSelf true]

theorem fast_path_agrees_of_resettled :
    (forall e, e ∈ settlement ++ [.answered 1 (.ok resettled)] -> e.IsSerial) ∧
    Told (create none (NodeHealth.check true)) (settlement ++ [.answered 1 (.ok resettled)]) 1
      settlement resettled ∧
    ((create none (NodeHealth.check true)).after
      (settlement ++ [.answered 1 (.ok resettled)])).stage? 1 =
        some (.finished (.ok .unchanged)) ∧
    ((create none (NodeHealth.check true)).after settlement).Matches resettled := by
  have hserial : forall e, e ∈ settlement ++ [.answered 1 (.ok resettled)] -> e.IsSerial := by
    simp [settlement, Event.IsSerial]
  have htold : Told (create none (NodeHealth.check true))
      (settlement ++ [.answered 1 (.ok resettled)]) 1 settlement resettled := by
    refine ⟨⟨[], rfl⟩, ?_⟩
    cbv
  have hend : ((create none (NodeHealth.check true)).after
      (settlement ++ [.answered 1 (.ok resettled)])).stage? 1 =
        some (.finished (.ok .unchanged)) := by
    cbv
  have hpath := fast_path_agrees none (NodeHealth.check true) hserial htold
  exact ⟨hserial, htold, hend, (hpath.unchanged _ hend).mp rfl⟩

end Reconciler
end ClusterNode
