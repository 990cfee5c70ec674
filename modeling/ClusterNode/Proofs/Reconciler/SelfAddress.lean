import ClusterNode.Proofs.Reconciler.FastPath
import ClusterNode.Proofs.Reconciler.Report

/-!
# Which entry is this node

The last registration that the membership has accepted decides which address is that of this node.
When calls do not overlap, the address stays the same from the query of a run to its end, so the
list that a run leaves marks that address and no other. When this node moves to the address of
another member, both entries are replaced and all others stay.
-/

namespace ClusterNode

def Event.isCall : Event -> Bool
  | registered _ _ => true
  | begun _ => true
  | _ => false

def Event.accepted? : Event -> Option Address
  | registered address (.ok _) => some address
  | _ => none

/-- The address that is handed to the membership: the internal one, where one is configured, and
always marked as the address of this node. -/
def Address.handed (internalAddress : Option Address) (address : Address) : Address :=
  ((internalAddress.map fun internal => internal.withInternal true).getD address).withSelf true

namespace Reconciler

def isFree (r : Reconciler) : Bool := r.runs.all fun run => run.stage.isOver

/-- Each call begins when all earlier ones are over. -/
def oneByOne (r : Reconciler) : List Event -> Bool
  | [] => true
  | event :: rest => (!event.isCall || r.isFree) && oneByOne (r.step event).1 rest

variable {r : Reconciler} {id : RunId} {history past before : List Event} {event : Event}
  {queried : List Address} {n : PeerId} {p : Peer} {key old new : String × UInt16}

/-!
## The cached address

The cached address is the one that was handed over by the last accepted call.
-/

theorem announced_eq (r : Reconciler) (address : Address) :
    r.announced address = Address.handed r.internalAddress address := by
  unfold announced Address.handed
  cases r.internalAddress with
  | none => rfl
  | some internal => rfl

theorem selfAddress_after (r : Reconciler) (history : List Event) :
    (r.after history).selfAddress =
      ((history.filterMap Event.accepted?).getLast?.map (Address.handed r.internalAddress)).or
        r.selfAddress := by
  induction history using List.reverseRecOn with
  | nil => rfl
  | append_singleton history event ih =>
      rw [after_concat, List.filterMap_append]
      by_cases hcall : exists address answer, event = .registered address answer
      · rcases hcall with ⟨address, answer, rfl⟩
        cases answer with
        | error e =>
            show (r.after history).selfAddress = _
            rw [ih]
            simp [Event.accepted?]
        | ok _ =>
            show some ((r.after history).announced address) = _
            rw [announced_after, announced_eq]
            simp [Event.accepted?]
      · have hnone : event.accepted? = none := by
          cases event with
          | registered address answer => exact absurd ⟨address, answer, rfl⟩ hcall
          | _ => rfl
        have hother : forall address answer, event ≠ .registered address answer :=
          fun address answer heq => hcall ⟨address, answer, heq⟩
        rw [selfAddress_step hother, ih]
        simp [hnone]

theorem selfAddress_after_of_not_registered
    (hother : forall e, e ∈ history -> forall address answer, e ≠ .registered address answer) :
    (r.after history).selfAddress = r.selfAddress := by
  induction history generalizing r with
  | nil => rfl
  | cons event rest ih =>
      have hrest := ih (r := (r.step event).1) fun e he => hother e (List.mem_cons_of_mem _ he)
      exact hrest.trans (selfAddress_step (hother event List.mem_cons_self))

/-!
## From the query of a run to its end

All runs are over when a call begins, so no registration comes between the query of a run and its
end.
-/

theorem oneByOne_append (r : Reconciler) (a b : List Event) :
    r.oneByOne (a ++ b) = (r.oneByOne a && (r.after a).oneByOne b) := by
  induction a generalizing r with
  | nil => rfl
  | cons event rest ih =>
      show ((!event.isCall || r.isFree) && oneByOne (r.step event).1 (rest ++ b)) = _
      rw [ih, ← Bool.and_assoc]
      rfl

theorem isOver_of_oneByOne {rest : List Event} (hone : r.oneByOne (past ++ event :: rest) = true)
    (hcall : event.isCall = true) {s : RunStage} (hs : (r.after past).stage? id = some s) :
    s.isOver = true := by
  rw [oneByOne_append, Bool.and_eq_true] at hone
  have hnow : ((!event.isCall || (r.after past).isFree) &&
      oneByOne ((r.after past).step event).1 rest) = true := hone.right
  rw [hcall, Bool.not_true, Bool.false_or, Bool.and_eq_true] at hnow
  rcases Option.map_eq_some_iff.mp hs with ⟨run, hrun, rfl⟩
  exact List.all_eq_true.mp hnow.left run (List.mem_of_getElem? hrun)

/-- The address of this node is the same at the end of a run as at its query. -/
theorem Succeeds.selfAddress_eq {rest : List Event} (h : Succeeds r past event id)
    (hlocked : r.Locked) (hone : r.oneByOne (past ++ event :: rest) = true)
    (htold : Told r (past ++ [event]) id before queried) :
    (r.after (past ++ [event])).selfAddress = (r.after before).selfAddress := by
  rcases htold with ⟨⟨later, hsplit⟩, hquerying⟩
  rw [hsplit, after_append]
  apply selfAddress_after_of_not_registered
  rintro e he address answer rfl
  rcases List.mem_cons.mp he with heq | he
  · cases heq
  · rcases List.append_of_mem he with ⟨earlier, more, rfl⟩
    -- The registration would come while the run is under way.
    have hmoment : past ++ [event] = (before ++ .answered id (.ok queried) :: earlier) ++
        .registered address answer :: more := by
      rw [hsplit]
      simp
    have hearlier : before ++ .answered id (.ok queried) :: earlier <+: past := by
      apply List.prefix_of_prefix_length_le ⟨_, hmoment.symm⟩ (List.prefix_append past [event])
      have hlength := congrArg List.length hmoment
      simp only [List.length_append, List.length_cons, List.length_nil] at hlength ⊢
      omega
    rcases beyondQuery_told hquerying queried with ⟨t, ht, hbeyond⟩
    rcases beyondQuery_after ((hlocked.run before).step _) ht hbeyond earlier with ⟨s, hs, _⟩
    have hs' : (r.after (before ++ .answered id (.ok queried) :: earlier)).stage? id = some s := by
      rw [after_append]
      exact hs
    have hwhole : past ++ event :: rest = (before ++ .answered id (.ok queried) :: earlier) ++
        .registered address answer :: (more ++ rest) := by
      rw [List.append_cons, hmoment]
      simp
    rw [hwhole] at hone
    exact Bool.false_ne_true ((h.not_over hlocked hearlier hs').symm.trans
      (isOver_of_oneByOne hone rfl hs'))

/-!
## The marks of a list

The marks stay as they are while no run succeeds. A published peer is taken over if its key is among
those of the answer and its mark is right.
-/

/-- The list marks the entry with this key, if there is one, and no other. -/
def MarksKey (r : Reconciler) (key : Option (String × UInt16)) : Prop :=
  forall n p, r.Publishes n p -> (p.isSelf = true <-> key = some p.address.key)

theorem Shows.marksKey {selfAddress : Option Address}
    (h : r.Shows (Topology.normalize selfAddress queried)) :
    r.MarksKey (selfAddress.map Address.key) := by
  rintro n p ⟨hn, hp⟩
  rcases Topology.exists_of_mem_left h hn with ⟨a, ha, q, hq, hstands⟩
  cases hp.symm.trans hq
  rcases (Topology.stands_iff _ _).mp hstands with ⟨hkey, hself⟩
  rw [hself, Topology.isSelf_of_mem_normalize ha, Topology.isRegistered_iff, hkey]

theorem MarksKey.later (hlocked : r.Locked) (hrooted : r.Rooted) {later : List Event}
    {marked : Option (String × UInt16)} (h : (r.after past).MarksKey marked)
    (hlater : NoneSucceeds r past later) : (r.after (past ++ later)).MarksKey marked := by
  rintro n p ⟨hn, hp⟩
  rw [(hlater.same_list hlocked hrooted).left] at hn
  rcases Directory.exists_peer?_of_lt ((hrooted.run past).known n hn) with ⟨q, hq⟩
  rcases same_of_peer?_after hrooted hq hp with ⟨haddress, hself⟩
  rw [haddress, hself]
  exact h n q ⟨hn, hq⟩

theorem mem_listOf_iff (hfit : r.directory.Fit) (hp : r.Publishes n p) :
    n ∈ r.listOf queried <-> p.address.key ∈ queried.map Address.key ∧
      (p.isSelf = true <-> r.selfAddress.map Address.key = some p.address.key) := by
  have hmem := mem_list_decision_iff hfit queried hp
  unfold listOf
  rw [hmem, ← Topology.mem_key_normalize r.selfAddress, List.mem_map]
  constructor
  · rintro ⟨a, ha, hstands⟩
    rcases (Topology.stands_iff _ _).mp hstands with ⟨hkey, hself⟩
    refine ⟨⟨a, ha, hkey.symm⟩, ?_⟩
    rw [hself, Topology.isSelf_of_mem_normalize ha, Topology.isRegistered_iff, hkey]
  · rintro ⟨⟨a, ha, hkey⟩, hmark⟩
    refine ⟨a, ha, (Topology.stands_iff _ _).mpr ⟨hkey.symm, ?_⟩⟩
    rw [Bool.eq_iff_iff, hmark, Topology.isSelf_of_mem_normalize ha, Topology.isRegistered_iff,
      hkey]

/-!
## Moving to the address of another member

Up to now the list marks the key that this node had before. So an entry of either key has the wrong
mark by now and has to leave, and the entries for the two keys get fresh peers.
-/

/-- This node has moved from one key to another since the last run that has succeeded. Both are on
the list and in the answer to the next query. -/
structure Moves (r : Reconciler) (before : List Event) (queried : List Address)
    (old new : String × UInt16) : Prop where
  ne : old ≠ new
  since : exists past event middle first, before = past ++ event :: middle ∧
    Succeeds r past event first ∧ NoneSucceeds r (past ++ [event]) middle ∧
      (r.after (past ++ [event])).selfAddress.map Address.key = some old
  now : (r.after before).selfAddress.map Address.key = some new
  published : old ∈ (r.after before).directory.keys ∧ new ∈ (r.after before).directory.keys
  queried : old ∈ queried.map Address.key ∧ new ∈ queried.map Address.key

/-- What becomes of the published list of `c` when this node moves, with the directory after it. -/
structure Moved (c : Reconciler) (d : Directory) (queried : List Address)
    (old new : String × UInt16) : Prop where
  /-- A fresh remote has the old key. -/
  leaves : exists n p, n ∈ d.published ∧ c.directory.peers.length ≤ n ∧ d.peer? n = some p ∧
    p.address.key = old ∧ p.isSelf = false
  /-- A fresh local peer has the new one. -/
  enters : exists n p, n ∈ d.published ∧ c.directory.peers.length ≤ n ∧ d.peer? n = some p ∧
    p.address.key = new ∧ p.isSelf = true
  /-- The local peer that had the old key and the remote that had the new one are off the list, and
  the remote has become closed. -/
  oldLocal : exists n p, c.Publishes n p ∧ p.address.key = old ∧ p.isSelf = true ∧ n ∉ d.published
  oldRemote : exists n p q, c.Publishes n p ∧ p.address.key = new ∧ p.isSelf = false ∧
    n ∉ d.published ∧ p.state ≠ .closed ∧ d.peer? n = some q ∧ q.state = .closed
  /-- Whoever else is in the answer keeps its peer. -/
  stays : forall n p, c.Publishes n p -> p.address.key ≠ old -> p.address.key ≠ new ->
    p.address.key ∈ queried.map Address.key -> n ∈ d.published

theorem exists_publishes_of_mem_keys (h : key ∈ r.directory.keys) :
    exists n p, r.Publishes n p ∧ p.address.key = key := by
  unfold Directory.keys Directory.snapshot Directory.resolve at h
  rcases List.mem_map.mp h with ⟨p, hp, rfl⟩
  rcases List.mem_filterMap.mp hp with ⟨n, hn, hpeer⟩
  exact ⟨n, p, ⟨hn, hpeer⟩, rfl⟩

theorem Moves.not_mem_listOf (hmoves : Moves r before queried old new)
    (hfit : (r.after before).directory.Fit) (hmarks : (r.after before).MarksKey (some old))
    (hp : (r.after before).Publishes n p) (hkey : p.address.key = old ∨ p.address.key = new) :
    n ∉ (r.after before).listOf queried := by
  intro hmem
  rw [mem_listOf_iff hfit hp, hmoves.now, hmarks n p hp] at hmem
  rcases hkey with hkey | hkey
  · have heq := Option.some.inj (hmem.right.mp (congrArg some hkey.symm))
    exact hmoves.ne (heq.trans hkey).symm
  · have heq := Option.some.inj (hmem.right.mpr (congrArg some hkey.symm))
    exact hmoves.ne (heq.trans hkey)

section End

variable (hledger : Ledger r []) (hrooted : r.Rooted) (hnew : r.runs = [])
  (hserial : forall e, e ∈ past -> e.IsSerial) (h : Succeeds r past event id)

include hledger hrooted hnew hserial h

theorem Succeeds.marksKey {rest : List Event}
    (hone : r.oneByOne (past ++ event :: rest) = true) :
    (r.after (past ++ [event])).MarksKey
      ((r.after (past ++ [event])).selfAddress.map Address.key) := by
  have hlocked := hledger.orderly.locked
  have hnone := stage?_eq_none_of_nil hnew id
  rcases h.exists_finishes with ⟨current, plan, hfinishes⟩
  rcases hfinishes.exists_told hlocked hrooted hnone with ⟨before, queried, htold, _⟩
  rw [h.selfAddress_eq hlocked hone htold]
  exact (h.shows_told hledger hrooted hnone hserial htold).marksKey

omit hserial h in
theorem Moves.marksKey (hmoves : Moves r before queried old new)
    (hone : r.oneByOne before = true) (hearlier : forall e, e ∈ before -> e.IsSerial) :
    (r.after before).MarksKey (some old) := by
  rcases hmoves.since with ⟨past, event, middle, first, rfl, hfirst, hlater, hself⟩
  have hpast : forall e, e ∈ past -> e.IsSerial :=
    fun e he => hearlier e (List.mem_append_left _ he)
  have hmarked := hfirst.marksKey hledger hrooted hnew hpast hone
  rw [hself] at hmarked
  rw [List.append_cons]
  exact hmarked.later hledger.orderly.locked hrooted hlater

variable (htold : Told r (past ++ [event]) id before queried)

include htold

theorem Succeeds.exists_entry (hkey : key ∈ queried.map Address.key) :
    exists n q, (r.after (past ++ [event])).Publishes n q ∧ q.address.key = key ∧
      (q.isSelf = true <-> (r.after before).selfAddress.map Address.key = some key) := by
  have hnone := stage?_eq_none_of_nil hnew id
  have hshows := h.shows_told hledger hrooted hnone hserial htold
  rw [← Topology.mem_key_normalize (r.after before).selfAddress, List.mem_map] at hkey
  rcases hkey with ⟨a, ha, rfl⟩
  rcases Topology.exists_of_mem_left hshows.flip ha with ⟨n, hn, q, hq, hstands⟩
  have hname := ((Topology.stands_iff _ _).mp hstands).left
  refine ⟨n, q, ⟨hn, hq⟩, hname, ?_⟩
  rw [hshows.marksKey n q ⟨hn, hq⟩, hname]

theorem Succeeds.fresh_of_marksKey {marked : Option (String × UInt16)}
    (hmarks : (r.after before).MarksKey marked) {q : Peer}
    (hq : (r.after (past ++ [event])).Publishes n q)
    (hmark : ¬(q.isSelf = true <-> marked = some q.address.key)) :
    (r.after before).directory.peers.length ≤ n := by
  have hnone := stage?_eq_none_of_nil hnew id
  have hknown := (hrooted.run before).known
  have hn := hq.left
  rw [h.published_told hledger hrooted hnone hserial htold] at hn
  rcases mem_list_decision_cases hknown hn with hold | ⟨hfresh, _⟩
  · exfalso
    apply hmark
    rcases Directory.exists_peer?_of_lt (hknown n hold) with ⟨p, hp⟩
    rcases htold with ⟨⟨later, hsplit⟩, _⟩
    have hq' := hq.right
    rw [hsplit] at hq'
    rcases same_of_peer?_after hrooted hp hq' with ⟨haddress, hself⟩
    rw [haddress, hself]
    exact hmarks n p ⟨hold, hp⟩
  · exact hfresh

theorem Succeeds.closed_of_left (hearlier : forall e, e ∈ before -> e.IsSerial)
    (hp : (r.after before).Publishes n p) (hremote : p.isSelf = false)
    (hleft : n ∉ (r.after (past ++ [event])).directory.published) :
    p.state ≠ .closed ∧ exists q, (r.after (past ++ [event])).directory.peer? n = some q ∧
      q.state = .closed := by
  have hnone := stage?_eq_none_of_nil hnew id
  have hfit := hledger.fit_after hearlier
  have hdiffers : ¬(r.after before).confirms queried = true := by
    intro hconfirms
    have hsame := h.sameList_of_confirms hledger hrooted hnone hserial htold hconfirms
    exact hleft (hsame.left ▸ hp.left)
  rcases h.exists_finishes with ⟨current, plan, hfinishes⟩
  rcases hfinishes.rebuilt hledger hrooted hnone hserial htold hdiffers with
    ⟨_, _, _, _, hrebuilt⟩
  rcases htold with ⟨⟨later, hsplit⟩, _⟩
  have hgrown : (r.after before).directory.Grows (r.after (past ++ [event])).directory := by
    rw [hsplit, after_append]
    exact grows_after (hrooted.run before) _
  rcases hgrown n p hp.right with ⟨q, hq, _⟩
  refine ⟨?_, q, hq, ((hrebuilt.closes n q hq).mpr ⟨hleft, p, hp, hremote⟩).left⟩
  intro hclosed
  exact hfit.unclosed n p hp.right ((Peer.state_eq_closed_iff p).mp hclosed) hp.left

/-- What a run does when this node has moved. -/
theorem Moves.moved (hmoves : Moves r before queried old new)
    (hone : r.oneByOne before = true) (hearlier : forall e, e ∈ before -> e.IsSerial) :
    Moved (r.after before) (r.after (past ++ [event])).directory queried old new := by
  have hfit := hledger.fit_after hearlier
  have hnone := stage?_eq_none_of_nil hnew id
  have hnow := hmoves.now
  have hne := hmoves.ne
  have hpublished := h.published_told hledger hrooted hnone hserial htold
  have hmarks := hmoves.marksKey hledger hrooted hnew hone hearlier
  have hleft : forall {n p}, (r.after before).Publishes n p ->
      p.address.key = old ∨ p.address.key = new ->
        n ∉ (r.after (past ++ [event])).directory.published := by
    intro n p hp hkey
    rw [hpublished]
    exact hmoves.not_mem_listOf hfit hmarks hp hkey
  constructor
  · rcases h.exists_entry hledger hrooted hnew hserial htold hmoves.queried.left with
      ⟨n, q, hq, hkey, hmark⟩
    rw [hnow] at hmark
    have hremote : ¬q.isSelf = true := fun hself => hne (Option.some.inj (hmark.mp hself)).symm
    refine ⟨n, q, hq.left, ?_, hq.right, hkey, by simpa using hremote⟩
    apply h.fresh_of_marksKey hledger hrooted hnew hserial htold hmarks hq
    exact fun hiff => hremote (hiff.mpr (congrArg some hkey.symm))
  · rcases h.exists_entry hledger hrooted hnew hserial htold hmoves.queried.right with
      ⟨n, q, hq, hkey, hmark⟩
    have hself : q.isSelf = true := hmark.mpr hnow
    refine ⟨n, q, hq.left, ?_, hq.right, hkey, hself⟩
    apply h.fresh_of_marksKey hledger hrooted hnew hserial htold hmarks hq
    exact fun hiff => hne ((Option.some.inj (hiff.mp hself)).trans hkey)
  · rcases exists_publishes_of_mem_keys hmoves.published.left with ⟨n, p, hp, hkey⟩
    have hself : p.isSelf = true := (hmarks n p hp).mpr (congrArg some hkey.symm)
    exact ⟨n, p, hp, hkey, hself, hleft hp (Or.inl hkey)⟩
  · rcases exists_publishes_of_mem_keys hmoves.published.right with ⟨n, p, hp, hkey⟩
    have hremote : ¬p.isSelf = true := by
      rw [hmarks n p hp]
      exact fun heq => hne ((Option.some.inj heq).trans hkey)
    have hremote' : p.isSelf = false := by simpa using hremote
    have hout := hleft hp (Or.inr hkey)
    rcases h.closed_of_left hledger hrooted hnew hserial htold hearlier hp hremote' hout with
      ⟨hopen, q, hq, hclosed⟩
    exact ⟨n, p, q, hp, hkey, hremote', hout, hopen, hq, hclosed⟩
  · intro n p hp hold hnew' hkey
    rw [hpublished, mem_listOf_iff hfit hp, hnow, hmarks n p hp]
    refine ⟨hkey, iff_of_false ?_ ?_⟩
    · exact fun heq => hold (Option.some.inj heq).symm
    · exact fun heq => hnew' (Option.some.inj heq).symm

end End

/-!
## Registrations and runs
-/

/-- What the registrations of a history decide. -/
structure DecidesSelf (r : Reconciler) (history : List Event) : Prop where
  /-- The cached address is the one that was handed over by the last accepted call. -/
  cached : (r.after history).selfAddress =
    (history.filterMap Event.accepted?).getLast?.map (Address.handed r.internalAddress)
  /-- An accepted call changes nothing else, and reports once that all is well. -/
  accepted : forall past address rest, history = past ++ .registered address (.ok ()) :: rest ->
    r.after (past ++ [.registered address (.ok ())]) =
        { r.after past with selfAddress := some (Address.handed r.internalAddress address) } ∧
      ((r.after past).step (.registered address (.ok ()))).2.filterMap Effect.health? = [.healthy]
  /-- A refused call changes nothing at all, and reports once what has gone wrong. -/
  refused : forall past address e rest, history = past ++ .registered address (.error e) :: rest ->
    r.after (past ++ [.registered address (.error e)]) = r.after past ∧
      ((r.after past).step (.registered address (.error e))).2.filterMap Effect.health? =
        [.unhealthy e.message]
  /-- The list of a run that has succeeded marks the cached address. -/
  marks : forall past event rest id, history = past ++ event :: rest -> Succeeds r past event id ->
    (r.after (past ++ [event])).MarksKey
      ((r.after (past ++ [event])).selfAddress.map Address.key)
  /-- The first run that is told after this node has moved comes to its end, however the connectors
  answer, and replaces the two entries. -/
  moves : forall id before queried old new, Told r history id before queried ->
    Moves r before queried old new ->
      (forall connector : Nat -> Except ClusterError Channel, exists later,
        (forall e, e ∈ later -> exists k, e = .replied id k (connector k)) ∧
          (r.after (before ++ .answered id (.ok queried) :: later)).Succeeded id) ∧
      forall past event rest, history = past ++ event :: rest -> Succeeds r past event id ->
        Moved (r.after before) (r.after (past ++ [event])).directory queried old new

/-- In every history of registrations and runs that do not overlap, the last accepted registration
decides which entry is this node. -/
theorem decides_self (internalAddress : Option Address) (check : HealthCheck)
    {history : List Event} (hserial : forall e, e ∈ history -> e.IsSerial)
    (hone : (create internalAddress check).oneByOne history = true) :
    DecidesSelf (create internalAddress check) history := by
  have hledger := ledger_create internalAddress check
  have hlocked := locked_create internalAddress check
  have hrooted := rooted_create internalAddress check
  constructor
  · rw [selfAddress_after]
    exact Option.or_none
  · rintro past address rest rfl
    refine ⟨?_, rfl⟩
    rw [after_concat]
    show { (create internalAddress check).after past with
      selfAddress := some (((create internalAddress check).after past).announced address) } = _
    rw [announced_after, announced_eq]
  · rintro past address e rest rfl
    exact ⟨after_concat _ _ _, rfl⟩
  · rintro past event rest id rfl hsucceeds
    have hserial' : forall e, e ∈ past -> e.IsSerial :=
      fun e he => hserial e (List.mem_append_left _ he)
    exact hsucceeds.marksKey hledger hrooted rfl hserial' hone
  · intro id before queried old new htold hmoves
    refine ⟨exists_end_of_told hlocked hrooted rfl htold.right queried, ?_⟩
    rintro past event rest rfl hsucceeds
    have hserial' : forall e, e ∈ past -> e.IsSerial :=
      fun e he => hserial e (List.mem_append_left _ he)
    have hnone := stage?_eq_none_of_nil (r := create internalAddress check) rfl id
    have htold' := hsucceeds.told hlocked hrooted hnone htold
    rcases htold with ⟨⟨later, hsplit⟩, _⟩
    rw [hsplit] at hserial hone
    rw [oneByOne_append, Bool.and_eq_true] at hone
    have hearlier : forall e, e ∈ before -> e.IsSerial :=
      fun e he => hserial e (List.mem_append_left _ he)
    exact hmoves.moved hledger hrooted rfl hserial' hsucceeds htold' hone.left hearlier

def relocation : List Event :=
  [.registered memberA (.ok ()), .begun .serial, .granted,
    .answered 0 (.ok [memberC, memberB, memberA]),
    .replied 0 0 (.ok 1), .replied 0 1 (.ok 2), .registered memberB (.ok ()),
    .begun .serial, .granted]

def residents : List Address :=
  [memberA, memberB, memberC]

theorem moves_of_relocation :
    Moves (create none (NodeHealth.check true)) relocation residents ("a", 1) ("b", 7) := by
  constructor
  · decide
  · refine ⟨relocation.take 5, .replied 0 1 (.ok 2),
      [.registered memberB (.ok ()), .begun .serial, .granted], 0, rfl,
      ⟨?_, ?_⟩, ?_, ?_⟩
    · rw [← succeeded_iff]
      cbv
      decide
    · rw [← succeeded_iff]
      cbv
    · have hregistered : forall id, ¬Succeeds (create none (NodeHealth.check true))
          (relocation.take 5 ++ [.replied 0 1 (.ok 2)] ++ [])
          (.registered memberB (.ok ())) id := by
        intro id hsucceeds
        rcases hsucceeds.exists_finishes with ⟨_, _, _, _, _, hopening, _⟩
        cases hopening
      exact ((noneSucceeds_nil _ _).concat hregistered).starts .serial
    · rw [selfAddress_after]
      rfl
  · rw [selfAddress_after]
    rfl
  · constructor
    · cbv
      exact List.Mem.head _
    · cbv
      exact List.Mem.tail _ (List.Mem.head _)
  · decide

theorem decides_self_of_relocation :
    (forall e, e ∈ relocation ++ [.answered 1 (.ok residents), .replied 1 0 (.ok 3)] ->
      e.IsSerial) ∧
    (create none (NodeHealth.check true)).oneByOne
      (relocation ++ [.answered 1 (.ok residents), .replied 1 0 (.ok 3)]) = true ∧
    exists d, Moved ((create none (NodeHealth.check true)).after relocation) d residents
      ("a", 1) ("b", 7) := by
  have hserial : forall e,
      e ∈ relocation ++ [.answered 1 (.ok residents), .replied 1 0 (.ok 3)] -> e.IsSerial := by
    simp [relocation, Event.IsSerial]
  have hone : (create none (NodeHealth.check true)).oneByOne
      (relocation ++ [.answered 1 (.ok residents), .replied 1 0 (.ok 3)]) = true := by
    cbv
  have htold : Told (create none (NodeHealth.check true))
      (relocation ++ [.answered 1 (.ok residents), .replied 1 0 (.ok 3)]) 1 relocation
      residents := by
    refine ⟨⟨[.replied 1 0 (.ok 3)], rfl⟩, ?_⟩
    cbv
  have hsucceeds : Succeeds (create none (NodeHealth.check true))
      (relocation ++ [.answered 1 (.ok residents)]) (.replied 1 0 (.ok 3)) 1 := by
    constructor
    · rw [← succeeded_iff]
      cbv
      decide
    · rw [← succeeded_iff]
      cbv
  have hdecides := decides_self none (NodeHealth.check true) hserial hone
  have hmoves := hdecides.moves 1 relocation residents _ _ htold moves_of_relocation
  exact ⟨hserial, hone, _, hmoves.right _ _ [] rfl hsucceeds⟩

end Reconciler
end ClusterNode
