import ClusterNode.Proofs.Reconciler.Lock

/-!
# The progress of a run

From the answer to its query on, a run has a list that stands for the addresses of the answer. It
goes on with that list until it has published it or is dropped. Unless it is dropped, the answers of
the connectors bring it to its end.
-/

namespace ClusterNode

/-- The list that a plan leads to stands for the addresses. -/
def Plan.Lists (d : Directory) (addresses : List Address) : Plan -> Prop
  | keep => Topology.Lists d d.published addresses
  | replace next _ _ => Topology.Lists d next addresses

theorem Plan.Lists.grows {d d' : Directory} {addresses : List Address} {plan : Plan}
    (h : plan.Lists d addresses) (hgrows : d.Grows d')
    (hpublished : d'.published = d.published) : plan.Lists d' addresses := by
  cases plan with
  | keep =>
      unfold Plan.Lists
      rw [hpublished]
      exact Topology.Lists.grows h hgrows
  | replace next created kept => exact Topology.Lists.grows h hgrows

namespace Reconciler

/-- The run is over and the list is as its answer says. -/
def Succeeded (r : Reconciler) (id : RunId) : Prop :=
  exists outcome, r.stage? id = some (.finished (.ok outcome))

/-- The published peers stand for the addresses, one by one. -/
def Shows (r : Reconciler) (addresses : List Address) : Prop :=
  Topology.Lists r.directory r.directory.published addresses

theorem Shows.of_directory_eq {r r' : Reconciler} {addresses : List Address}
    (h : r.Shows addresses) (hdirectory : r'.directory = r.directory) : r'.Shows addresses := by
  unfold Shows
  rw [hdirectory]
  exact h

/-!
## Runs that go on

A run that goes on still has its plan, or has brought it about. As long as it does not succeed it
leaves the published list as it is.
-/

theorem succeeded_complete {r : Reconciler} {id : RunId} {s : RunStage}
    (h : r.stage? id = some s) (current : List PeerId) (plan : Plan)
    (attempts : List Attempt) : (r.complete id current plan attempts).1.Succeeded id := by
  refine ⟨plan.outcome r.directory current, ?_⟩
  rw [stage?_complete]
  exact stage?_setStage_self h _

theorem shows_complete {r : Reconciler} {addresses : List Address} {plan : Plan}
    (h : plan.Lists r.directory addresses) (id : RunId) (current : List PeerId)
    (attempts : List Attempt) :
    (r.complete id current plan attempts).1.Shows addresses := by
  unfold Shows
  cases plan with
  | keep =>
      rw [complete_keep, directory_conclude]
      exact h
  | replace next created kept =>
      rw [complete_replace, directory_conclude]
      show Topology.Lists (closeAll (r.directory.publish next) _)
        (closeAll (r.directory.publish next) _).published addresses
      rw [published_closeAll]
      have hnext : Topology.Lists r.directory next addresses := h
      exact hnext.grows ((Directory.grows_publish _ next).trans (grows_closeAll _ _))

/-- One run has gone on after a change of the peers: it connects, or it is complete. -/
def Proceeds (r : Reconciler) (d : Directory) (id : RunId) (plan : Plan) (r' : Reconciler) :
    Prop :=
  r.directory.Grows d ∧ d.published = r.directory.published ∧
    exists current attempts,
      r' = { r with directory := d }.setStage id (.connecting current plan attempts) ∨
        r' = ({ r with directory := d }.complete id current plan attempts).1

theorem Proceeds.stage?_ne {r r' : Reconciler} {d : Directory} {id other : RunId} {plan : Plan}
    (h : r.Proceeds d id plan r') (hne : id ≠ other) : r'.stage? other = r.stage? other := by
  rcases h with ⟨_, _, current, attempts, rfl | rfl⟩
  · rw [stage?_setStage_ne _ hne]
    rfl
  · rw [stage?_complete, stage?_setStage_ne _ hne]
    rfl

theorem Proceeds.lists {r r' : Reconciler} {d : Directory} {id : RunId} {plan : Plan}
    {s : RunStage} {addresses : List Address} (h : r.Proceeds d id plan r')
    (hs : r.stage? id = some s) (hplan : plan.Lists d addresses) :
    (exists current attempts, r'.stage? id = some (.connecting current plan attempts) ∧
        plan.Lists r'.directory addresses) ∨
      (r'.Succeeded id ∧ r'.Shows addresses) := by
  have hs' : { r with directory := d }.stage? id = some s := hs
  rcases h with ⟨_, _, current, attempts, rfl | rfl⟩
  · exact Or.inl ⟨current, attempts, stage?_setStage_self hs' _, hplan⟩
  · exact Or.inr ⟨succeeded_complete hs' current plan attempts, shows_complete hplan id _ _⟩

theorem Proceeds.keeps {r r' : Reconciler} {d : Directory} {id : RunId} {plan : Plan}
    {s : RunStage} {addresses : List Address} (h : r.Proceeds d id plan r')
    (hs : r.stage? id = some s) (hnot : ¬r'.Succeeded id)
    (hshows : r.Shows addresses) : r'.Shows addresses := by
  rcases h with ⟨hgrows, hpublished, current, attempts, rfl | rfl⟩
  · show Topology.Lists d d.published addresses
    rw [hpublished]
    exact Topology.Lists.grows hshows hgrows
  · have hs' : { r with directory := d }.stage? id = some s := hs
    exact absurd (succeeded_complete hs' current plan attempts) hnot

/-!
## What the turns of a run do

What a run decides that is told of addresses leads to a list that stands for them. After that a turn
is idle, or takes the run on with the plan that it has.
-/

/-- What a run decides that is told of addresses leads to a list that stands for them. -/
theorem decision_lists {r : Reconciler}
    (hknown : forall id, id ∈ r.directory.published -> id < r.directory.peers.length)
    (queried : List Address) :
    (r.decision queried).Lists (r.staged queried)
      (Topology.normalize r.selfAddress queried) := by
  by_cases hconfirms : r.confirms queried = true
  · rw [decision_of_confirms hconfirms, staged_of_confirms hconfirms]
    exact (confirms_iff hknown).mp hconfirms
  · rw [decision_of_not_confirms hknown hconfirms, staged_of_not_confirms hknown hconfirms]
    exact lists_nextOf

theorem answer_proceeds {r : Reconciler}
    (hknown : forall id, id ∈ r.directory.published -> id < r.directory.peers.length)
    {id : RunId} (hs : r.stage? id = some .querying) (queried : List Address) :
    exists d plan, r.Proceeds d id plan (r.answer id (.ok queried)).1 ∧
      plan.Lists d (Topology.normalize r.selfAddress queried) := by
  have hopening := Opening.told queried hs
  refine ⟨r.staged queried, r.decision queried, ?_, decision_lists hknown queried⟩
  refine ⟨hopening.grows hknown, hopening.published_eq hknown, r.directory.published, ?_⟩
  rw [answer_told hs]
  unfold connect
  split
  · exact ⟨[], Or.inr rfl⟩
  · exact ⟨_, Or.inl rfl⟩

theorem Turn.proceeds {r r' : Reconciler} {id : RunId} {event : Event} {effects : List Effect}
    (h : Turn r id event r' effects)
    (hknown : forall id, id ∈ r.directory.published -> id < r.directory.peers.length) :
    Idle r r' ∨ exists current plan d opening, Opening r id event current plan d opening ∧
      r.Proceeds d id plan r' := by
  cases h with
  | rests _ => exact Or.inl (Idle.refl r)
  | enters kind _ => exact Or.inl (idle_begin r kind)
  | starts rest _ _ => exact Or.inl (idle_starts r id rest)
  | fails e _ => exact Or.inl (idle_conclude r id _)
  | goes d hopening _ _ =>
      exact Or.inr ⟨_, _, d, _, hopening, hopening.grows hknown, hopening.published_eq hknown,
        _, _, Or.inl rfl⟩
  | ends d attempts hopening =>
      exact Or.inr ⟨_, _, d, _, hopening, hopening.grows hknown, hopening.published_eq hknown,
        _, attempts, Or.inr rfl⟩
  | leaves _ _ => exact Or.inl (idle_abandon r id)

/-- A step is idle, closes a peer, or takes one run on with the plan that it has or gets. -/
theorem step_cases {r : Reconciler}
    (hknown : forall id, id ∈ r.directory.published -> id < r.directory.peers.length)
    (event : Event) :
    Idle r (r.step event).1 ∨ (exists peer, (r.step event).1 = r.closePeer peer) ∨
      exists id s d plan, r.stage? id = some s ∧ s.isOver = false ∧
        r.Proceeds d id plan (r.step event).1 ∧
        ((exists addresses, plan.Lists d addresses) ∨
          exists current attempts, s = .connecting current plan attempts) := by
  cases howner : r.owner? event with
  | none =>
      have haside := aside_step howner
      generalize (r.step event).1 = r' at haside ⊢
      generalize (r.step event).2 = effects at haside
      cases haside with
      | registers address answer => exact Or.inl (idle_registered r _ answer)
      | rests => exact Or.inl (Idle.refl r)
      | closes peer => exact Or.inr (Or.inl ⟨peer, rfl⟩)
  | some id =>
      rcases (turn_step howner).proceeds hknown with
        hidle | ⟨current, plan, d, opening, hopening, hp⟩
      · exact Or.inl hidle
      · right
        right
        cases hopening with
        | told queried hs =>
            exact ⟨id, _, _, _, hs, rfl, hp, Or.inl ⟨_, decision_lists hknown queried⟩⟩
        | heard attempt answer hs _ =>
            exact ⟨id, _, _, plan, hs, rfl, hp, Or.inr ⟨current, _, rfl⟩⟩

/-!
## Lists that stand for addresses

The directory after a history is the replay of its effects.
-/

/-- The published list and every list that a run will publish stand for some addresses. -/
structure Rooted (r : Reconciler) : Prop where
  published : exists addresses, r.Shows addresses
  planned : forall id current plan attempts,
    r.stage? id = some (.connecting current plan attempts) ->
      exists addresses, plan.Lists r.directory addresses

theorem Rooted.known {r : Reconciler} (h : r.Rooted) :
    forall id, id ∈ r.directory.published -> id < r.directory.peers.length := by
  rcases h.published with ⟨addresses, hshows⟩
  exact Topology.Lists.known hshows

theorem rooted_create (internalAddress : Option Address) (check : HealthCheck) :
    (create internalAddress check).Rooted := by
  constructor
  · exact ⟨[], List.Forall₂.nil⟩
  · intro id current plan attempts h
    cases h

theorem Rooted.idle {r r' : Reconciler} (h : r.Rooted) (hidle : Idle r r') : r'.Rooted := by
  constructor
  · rcases h.published with ⟨addresses, hshows⟩
    exact ⟨addresses, hshows.of_directory_eq hidle.directory⟩
  · intro id current plan attempts hstage
    rw [hidle.directory]
    exact h.planned id current plan attempts
      (hidle.connecting id current plan attempts hstage)

theorem grows_complete (r : Reconciler) (id : RunId) (current : List PeerId) (plan : Plan)
    (attempts : List Attempt) :
    r.directory.Grows (r.complete id current plan attempts).1.directory := by
  cases plan with
  | keep =>
      rw [complete_keep, directory_conclude]
      exact Directory.Grows.refl _
  | replace next created kept =>
      rw [complete_replace, directory_conclude]
      exact (Directory.grows_publish _ next).trans (grows_closeAll _ _)

theorem Proceeds.grows {r r' : Reconciler} {d : Directory} {id : RunId} {plan : Plan}
    (h : r.Proceeds d id plan r') : r.directory.Grows r'.directory := by
  rcases h with ⟨hgrows, _, current, attempts, rfl | rfl⟩
  · exact hgrows
  · have hcomplete := grows_complete { r with directory := d } id current plan attempts
    exact hgrows.trans hcomplete

theorem Rooted.proceeds {r r' : Reconciler} (h : r.Rooted) {d : Directory} {id : RunId}
    {plan : Plan} {s : RunStage} {addresses : List Address} (hs : r.stage? id = some s)
    (hp : r.Proceeds d id plan r') (hplan : plan.Lists d addresses) : r'.Rooted := by
  have hpublished : exists addresses, r'.Shows addresses := by
    by_cases hsucceeded : r'.Succeeded id
    · rcases hp.lists hs hplan with ⟨current, attempts, hstage, _⟩ | ⟨_, hlists⟩
      · rcases hsucceeded with ⟨outcome, hend⟩
        rw [hstage] at hend
        cases hend
      · exact ⟨addresses, hlists⟩
    · rcases h.published with ⟨old, hold⟩
      exact ⟨old, hp.keeps hs hsucceeded hold⟩
  constructor
  · exact hpublished
  · intro other current' plan' attempts' hother
    by_cases hid : id = other
    · subst hid
      rcases hp.lists hs hplan with ⟨current, attempts, hstage, hlists⟩ | ⟨⟨outcome, hend⟩, _⟩
      · rw [hstage] at hother
        cases hother
        exact ⟨addresses, hlists⟩
      · rw [hend] at hother
        cases hother
    · rw [hp.stage?_ne hid] at hother
      rcases h.planned other current' plan' attempts' hother with ⟨old, hold⟩
      cases plan' with
      | keep => exact hpublished
      | replace next created kept => exact ⟨old, Topology.Lists.grows hold hp.grows⟩

theorem Rooted.closePeer {r : Reconciler} (h : r.Rooted) (peer : PeerId) :
    (r.closePeer peer).Rooted := by
  have hgrows := Directory.grows_close r.directory peer
  rcases h.published with ⟨addresses, hshows⟩
  constructor
  · exact ⟨addresses, Topology.Lists.grows hshows hgrows⟩
  · intro id current plan attempts hstage
    rcases h.planned id current plan attempts hstage with ⟨others, hplan⟩
    exact ⟨others, hplan.grows hgrows rfl⟩

theorem Rooted.step {r : Reconciler} (h : r.Rooted) (event : Event) :
    (r.step event).1.Rooted := by
  rcases step_cases h.known event with
    hidle | ⟨peer, hclosed⟩ | ⟨id, s, d, plan, hs, _, hp, hplan⟩
  · exact h.idle hidle
  · rw [hclosed]
    exact h.closePeer peer
  · rcases hplan with ⟨addresses, hplan⟩ | ⟨current, attempts, rfl⟩
    · exact h.proceeds hs hp hplan
    · rcases h.planned id current plan attempts hs with ⟨addresses, hplan⟩
      exact h.proceeds hs hp (hplan.grows hp.left hp.right.left)

theorem Rooted.run {r : Reconciler} (h : r.Rooted) (history : List Event) :
    (r.after history).Rooted := by
  induction history generalizing r with
  | nil => exact h
  | cons event rest ih => exact ih (h.step event)

theorem replay_trace {r : Reconciler} (h : r.Rooted) (history : List Event) :
    r.directory.replay (r.trace history) = (r.after history).directory := by
  induction history generalizing r with
  | nil => rfl
  | cons event rest ih =>
      show r.directory.replay ((r.step event).2 ++ (r.step event).1.trace rest) = _
      rw [Directory.replay_append, replay_step h.known event]
      exact ih (h.step event)

theorem grows_after {r : Reconciler} (h : r.Rooted) (history : List Event) :
    r.directory.Grows (r.after history).directory := by
  rw [← replay_trace h history]
  exact Directory.grows_replay _ _

/-!
## Runs that come to their end

Each answer of a connector leaves one attempt less to wait for, and the last one ends the run.
-/

def unanswered (attempts : List Attempt) : Nat := attempts.countP fun a => !a.isOver

theorem exists_of_unanswered_pos {attempts : List Attempt} (h : 0 < unanswered attempts) :
    exists (k : Nat) (peer : PeerId), attempts[k]? = some { peer, result := none } := by
  rcases List.countP_pos_iff.mp h with ⟨⟨peer, result⟩, hmem, hopen⟩
  rcases List.getElem?_of_mem hmem with ⟨k, hk⟩
  cases result with
  | none => exact ⟨k, peer, hk⟩
  | some _ => cases hopen

theorem unanswered_set {attempts : List Attempt} {k : Nat} {peer : PeerId}
    (hk : attempts[k]? = some ⟨peer, none⟩) (result : Except ClusterError Unit) :
    unanswered (attempts.set k ⟨peer, some result⟩) + 1 = unanswered attempts := by
  rcases List.getElem?_eq_some_iff.mp hk with ⟨hlt, hget⟩
  have hpos : 0 < unanswered attempts :=
    List.countP_pos_iff.mpr ⟨_, List.mem_of_getElem? hk, rfl⟩
  unfold unanswered at hpos ⊢
  rw [List.countP_set hlt, hget]
  exact Nat.sub_add_cancel hpos

theorem all_isOver_iff (attempts : List Attempt) :
    attempts.all Attempt.isOver = true <-> unanswered attempts = 0 := by
  unfold unanswered
  rw [List.countP_eq_zero, List.all_eq_true]
  simp

theorem reply_of_unanswered {r : Reconciler} {id : RunId} {current : List PeerId} {plan : Plan}
    {attempts : List Attempt} {k : Nat} {peer : PeerId} {p : Peer}
    (hs : r.stage? id = some (.connecting current plan attempts))
    (hk : attempts[k]? = some ⟨peer, none⟩) (hp : r.directory.peer? peer = some p)
    (answer : Except ClusterError Channel) :
    (r.reply id k answer).1.Succeeded id ∨
      exists attempts', (r.reply id k answer).1.stage? id =
          some (.connecting current plan attempts') ∧
        attempts'.map Attempt.peer = attempts.map Attempt.peer ∧
        unanswered attempts' ≠ 0 ∧ unanswered attempts' + 1 = unanswered attempts := by
  unfold reply
  rw [hs]
  dsimp only
  rw [hk]
  dsimp only
  rw [hp]
  dsimp only
  split
  · left
    exact succeeded_complete
      (r := { r with directory := r.directory.modify peer fun _ => (p.finishConnect answer).1 })
      hs current plan _
  · rename_i hwaits
    right
    refine ⟨_, stage?_setStage_self hs _, map_peer_set hk _, ?_, unanswered_set hk _⟩
    exact fun hzero => hwaits ((all_isOver_iff _).mpr hzero)

theorem exists_end_of_connecting (connector : Nat -> Except ClusterError Channel) {id : RunId}
    {current : List PeerId} {plan : Plan} {n : Nat} {r : Reconciler} {attempts : List Attempt}
    (hrooted : r.Rooted) (hs : r.stage? id = some (.connecting current plan attempts))
    (hknown : forall peer, peer ∈ attempts.map Attempt.peer -> peer < r.directory.peers.length)
    (hn : unanswered attempts = n + 1) :
    exists later, (forall event, event ∈ later -> exists k, event = .replied id k (connector k)) ∧
      (r.after later).Succeeded id := by
  induction n using Nat.strong_induction_on generalizing r attempts with
  | _ n ih =>
      have hwaiting : 0 < unanswered attempts := by omega
      rcases exists_of_unanswered_pos hwaiting with ⟨k, peer, hk⟩
      have hpeer : peer ∈ attempts.map Attempt.peer :=
        List.mem_map.mpr ⟨_, List.mem_of_getElem? hk, rfl⟩
      rcases Directory.exists_peer?_of_lt (hknown peer hpeer) with ⟨p, hp⟩
      rcases reply_of_unanswered hs hk hp (connector k) with
        hend | ⟨attempts', hs', hpeers, hwaits, hfewer⟩
      · exact ⟨[.replied id k (connector k)], by simp, hend⟩
      · have hgrows := (grows_after hrooted [.replied id k (connector k)]).length_le
        have hknown' : forall other, other ∈ attempts'.map Attempt.peer ->
            other < (r.reply id k (connector k)).1.directory.peers.length := by
          intro other hother
          rw [hpeers] at hother
          exact Nat.lt_of_lt_of_le (hknown other hother) hgrows
        rcases ih (unanswered attempts' - 1) (by omega)
          (hrooted.step (.replied id k (connector k))) hs' hknown' (by omega) with
          ⟨later, hlater, hend⟩
        refine ⟨.replied id k (connector k) :: later, ?_, hend⟩
        intro event hevent
        rcases List.mem_cons.mp hevent with rfl | hevent
        · exact ⟨k, rfl⟩
        · exact hlater event hevent

theorem connect_cases {r : Reconciler} {id : RunId} {s : RunStage} (hs : r.stage? id = some s)
    (current : List PeerId) (plan : Plan) (targets : List PeerId) :
    (r.connect id current plan targets).1.Succeeded id ∨
      exists attempts, (r.connect id current plan targets).1.stage? id =
          some (.connecting current plan attempts) ∧ unanswered attempts ≠ 0 ∧
        forall peer, peer ∈ attempts.map Attempt.peer ->
          peer < (r.connect id current plan targets).1.directory.peers.length := by
  unfold connect
  cases hpending : Topology.pending r.directory targets with
  | nil => exact Or.inl (succeeded_complete hs current plan [])
  | cons first rest =>
      right
      refine ⟨_, stage?_setStage_self hs _, ?_, ?_⟩
      · simp [unanswered, Attempt.isOver]
      · intro peer hpeer
        rw [List.map_map] at hpeer
        rcases List.mem_map.mp hpeer with ⟨peer', hmem, rfl⟩
        rw [← hpending] at hmem
        rcases (Directory.isCreated_eq_true_iff _ _).mp (List.mem_filter.mp hmem).right with
          ⟨p, hp, _⟩
        exact Directory.lt_length_of_peer? hp

theorem stage?_answer_error {r : Reconciler} {id : RunId} (hs : r.stage? id = some .querying)
    (e : ClusterError) :
    (r.answer id (.error e)).1.stage? id = some (.finished (.error e)) := by
  unfold answer
  rw [hs]
  dsimp only
  rw [fail_fst, stage?_conclude, stage?_setStage_self hs]

theorem step_told {r : Reconciler} {id : RunId} (hs : r.stage? id = some .querying)
    (queried : List Address) :
    (r.step (.answered id (.ok queried))).1 =
      ({ r with directory := r.staged queried }.connect id r.directory.published
        (r.decision queried) ((r.decision queried).list r.directory.published)).1 := by
  show (r.answer id (.ok queried)).1 = _
  rw [answer_told hs]

/-- However its query and its connects are answered, a run comes to its end. -/
theorem exists_end {r : Reconciler} {id : RunId} (hrooted : r.Rooted)
    (hs : r.stage? id = some .querying) (answer : Except ClusterError (List Address))
    (connector : Nat -> Except ClusterError Channel) :
    exists later result,
      (forall event, event ∈ later -> exists k, event = .replied id k (connector k)) ∧
        (r.after (.answered id answer :: later)).stage? id = some (.finished result) := by
  cases answer with
  | error e => exact ⟨[], .error e, by simp, stage?_answer_error hs e⟩
  | ok queried =>
      have hrooted' := hrooted.step (.answered id (.ok queried))
      have htold := step_told hs queried
      have hs' : { r with directory := r.staged queried }.stage? id = some .querying := hs
      rcases connect_cases hs' r.directory.published (r.decision queried)
        ((r.decision queried).list r.directory.published) with
        ⟨outcome, hend⟩ | ⟨attempts, hconnecting, hwaits, hknown⟩
      · refine ⟨[], .ok outcome, by simp, ?_⟩
        show (r.step (.answered id (.ok queried))).1.stage? id = _
        rw [htold]
        exact hend
      · rw [← htold] at hconnecting hknown
        rcases exists_end_of_connecting connector hrooted' hconnecting hknown
          (Nat.succ_pred hwaits).symm with ⟨later, hlater, outcome, hend⟩
        exact ⟨later, .ok outcome, hlater, hend⟩

end Reconciler
end ClusterNode
