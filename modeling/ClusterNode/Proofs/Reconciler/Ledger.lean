import ClusterNode.Proofs.Reconciler.Lock
import ClusterNode.Proofs.Reconciler.Record

/-!
# The ledger of peers

As long as no list is published while another run is at its connects, the effects keep their record,
and a run that connects has a plan that fits the published list. Histories in which all runs take
the lock are of that kind.
-/

namespace ClusterNode
namespace Reconciler

/-- A plan that may be completed after the effects so far. -/
def Planned (trace : List Effect) (current : List PeerId) (plan : Plan) : Prop :=
  current = (Directory.built trace).published ∧
    forall next created kept, plan = .replace next created kept ->
      (exists addresses, Topology.Ranked addresses ∧
        Topology.Lists (Directory.built trace) next addresses) ∧
      forall id, id ∈ next -> Renewable trace id

/-- The effects so far account for the directory, and the plans fit the published list. -/
structure Account (r : Reconciler) (trace : List Effect) : Prop where
  record : Record trace []
  built : Directory.built trace = r.directory
  planned : forall id current plan attempts,
    r.stage? id = some (.connecting current plan attempts) -> Planned trace current plan

structure Ledger (r : Reconciler) (trace : List Effect) : Prop extends Account r trace where
  orderly : r.Orderly

theorem account_create (internalAddress : Option Address) (check : HealthCheck) :
    Account (create internalAddress check) [] := by
  constructor
  · exact record_nil
  · rfl
  · intro id current plan attempts h
    cases h

theorem ledger_create (internalAddress : Option Address) (check : HealthCheck) :
    Ledger (create internalAddress check) [] :=
  ⟨account_create internalAddress check, orderly_create internalAddress check⟩

/-!
## Effects that keep the list
-/

theorem wasPublished_append_iff {trace effects : List Effect} (h : Quiet effects)
    (id : PeerId) : WasPublished (trace ++ effects) id <-> WasPublished trace id := by
  constructor
  · intro ⟨next, hmem, hid⟩
    rcases List.mem_append.mp hmem with hold | hnew
    · exact ⟨next, hold, hid⟩
    · exact absurd hnew (h next)
  · intro hid
    exact hid.append effects

theorem Planned.append {trace effects : List Effect} {current : List PeerId} {plan : Plan}
    (h : Planned trace current plan) (hquiet : Quiet effects) :
    Planned (trace ++ effects) current plan := by
  have hbuilt : Directory.built (trace ++ effects) = (Directory.built trace).replay effects :=
    Directory.replay_append Directory.empty trace effects
  have hpublished := published_replay hquiet (Directory.built trace)
  constructor
  · rw [hbuilt, hpublished]
    exact h.left
  · intro next created kept hplan
    rcases h.right next created kept hplan with ⟨⟨addresses, hranked, hlists⟩, hnext⟩
    constructor
    · refine ⟨addresses, hranked, ?_⟩
      rw [hbuilt]
      exact hlists.grows (Directory.grows_replay _ effects)
    · intro id hid
      unfold Renewable
      rw [hbuilt, hpublished, wasPublished_append_iff hquiet]
      exact hnext id hid

/-!
## Steps

An answer creates the peers that are missing, and the new list takes over peers of the old one or
uses the created ones. What a run has decided fits the published list until the run ends.
-/

variable {r r' : Reconciler} {id : RunId} {event : Event} {trace effects : List Effect}
  {current : List PeerId} {plan : Plan} {d : Directory}

theorem Account.known (h : Account r trace) :
    forall id, id ∈ r.directory.published -> id < r.directory.peers.length := by
  rcases h.record.fit.listed with ⟨addresses, _, hlists⟩
  rw [h.built] at hlists
  exact hlists.known

theorem Account.idle (h : Account r trace) (hidle : Idle r r')
    (hnotices : forall e, e ∈ effects -> e.IsNotice) : Account r' (trace ++ effects) := by
  constructor
  · exact h.record.notices hnotices
  · rw [hidle.directory, ← h.built]
    exact (Directory.replay_append _ trace effects).trans
      (Directory.replay_notices hnotices _)
  · intro id current plan attempts hstage
    have hplan := h.planned id current plan attempts
      (hidle.connecting id current plan attempts hstage)
    exact hplan.append (quiet_of_isNotice hnotices)

theorem built_append_notices {trace effects : List Effect}
    (h : forall e, e ∈ effects -> e.IsNotice) :
    Directory.built (trace ++ effects) = Directory.built trace :=
  (Directory.replay_append _ trace effects).trans (Directory.replay_notices h _)

theorem record_replaced {trace : List Effect} (h : Record trace []) {next : List PeerId}
    {addresses : List Address} (hranked : Topology.Ranked addresses)
    (hlists : Topology.Lists (Directory.built trace) next addresses)
    (hnext : forall id, id ∈ next -> Renewable trace id) {left : List PeerId}
    (hleft : left = leaving (Directory.built trace) (Directory.built trace).published next) :
    Record (trace ++ [.published next] ++ left.map Effect.closed) [] ∧
      Directory.built (trace ++ [.published next] ++ left.map Effect.closed) =
        closeAll ((Directory.built trace).publish next) left := by
  subst hleft
  constructor
  · exact (h.published hranked hlists hnext).closes
  · unfold Directory.built
    rw [Directory.replay_append, Directory.replay_append, Directory.replay_closed]
    rfl

theorem Account.complete (h : Account r trace) (id : RunId) (hplan : Planned trace current plan)
    (attempts : List Attempt)
    (halone : Alone (r.complete id current plan attempts).1
      (r.complete id current plan attempts).2) :
    Account (r.complete id current plan attempts).1
      (trace ++ (r.complete id current plan attempts).2) := by
  cases plan with
  | keep =>
      rw [complete_keep]
      apply h.idle (idle_conclude r id _)
      intro e he
      rcases List.mem_append.mp he with hwarning | hend
      · exact isNotice_warnings _ _ e hwarning
      · exact isNotice_succeed _ _ _ e hend
  | replace next created kept =>
      have hwarnings := isNotice_warnings r.directory attempts
      have hplan' := hplan.append (quiet_of_isNotice hwarnings)
      have hbuilt : Directory.built (trace ++ warnings r.directory attempts) = r.directory :=
        (built_append_notices hwarnings).trans h.built
      rcases hplan'.right next created kept rfl with ⟨⟨addresses, hranked, hlists⟩, hnext⟩
      have hleft : leaving r.directory current next =
          leaving (Directory.built (trace ++ warnings r.directory attempts))
            (Directory.built (trace ++ warnings r.directory attempts)).published next := by
        rw [← hplan'.left, hbuilt]
      rcases record_replaced (h.record.notices hwarnings) hranked hlists hnext hleft with
        ⟨hrecord, hclosed⟩
      rw [hbuilt] at hclosed
      rw [complete_replace] at halone ⊢
      have hends := isNotice_succeed (r.replaced current next) id
        (.rebuilt created kept (leaving r.directory current next).length)
      constructor
      · simpa using hrecord.notices hends
      · have hdirectory := (built_append_notices hends).trans hclosed
        change _ = (r.replaced current next).directory at hdirectory
        rw [directory_conclude, ← hdirectory]
        simp
      · intro other current' plan' attempts' hother
        exact absurd hother (halone ⟨next, by simp⟩ _ _ _ _)

theorem Account.prelude (h : Account r trace) (queried : List Address) :
    Record (trace ++ r.prelude queried) [] ∧
      Planned (trace ++ r.prelude queried) r.directory.published (r.decision queried) := by
  have hsize : Record (trace ++ [r.sizeOf queried]) [] :=
    h.record.notices (by simp [sizeOf, sizeGauge, Effect.IsNotice])
  have hbuilt : Directory.built (trace ++ r.prelude queried) = r.staged queried := by
    rw [← replay_prelude h.known, ← h.built]
    exact Directory.replay_append _ trace _
  by_cases hconfirms : r.confirms queried = true
  · rw [staged_of_confirms hconfirms] at hbuilt
    rw [prelude_of_confirms hconfirms] at *
    rw [decision_of_confirms hconfirms]
    refine ⟨hsize, ?_, ?_⟩
    · rw [hbuilt]
    · intro next created kept hkeep
      cases hkeep
  · rw [staged_of_not_confirms h.known hconfirms] at hbuilt
    rw [prelude_of_not_confirms h.known hconfirms] at *
    rw [decision_of_not_confirms h.known hconfirms]
    refine ⟨?_, ?_, ?_⟩
    · have hcreated := hsize.created (Topology.newcomers r.directory r.directory.published
        (Topology.normalize r.selfAddress queried))
      rwa [List.append_assoc] at hcreated
    · rw [hbuilt]
      rfl
    · intro next created kept hreplace
      cases hreplace
      refine ⟨⟨_, Topology.ranked_normalize r.selfAddress queried, ?_⟩, ?_⟩
      · rw [hbuilt]
        exact lists_nextOf
      · intro peer hpeer
        rcases mem_nextOf hpeer with hcurrent | hnew
        · left
          rw [hbuilt]
          exact hcurrent
        · right
          intro hwas
          have hquiet : Quiet [r.sizeOf queried, .created (r.fresh queried)] := by
            simp [Quiet, sizeOf, sizeGauge]
          rw [wasPublished_append_iff hquiet] at hwas
          rcases h.record.known peer hwas with ⟨p, hp⟩
          rw [h.built] at hp
          exact Nat.not_lt_of_le hnew (Directory.lt_length_of_peer? hp)

theorem Account.opening (h : Account r trace)
    (hopening : Opening r id event current plan d effects) :
    Account { r with directory := d } (trace ++ effects) ∧
      Planned (trace ++ effects) current plan := by
  have hquiet := hopening.quiet
  have hbuilt : Directory.built (trace ++ effects) = d := by
    rw [← hopening.replay_eq h.known, ← h.built]
    exact Directory.replay_append _ trace effects
  have hothers : forall id current plan attempts,
      r.stage? id = some (.connecting current plan attempts) ->
        Planned (trace ++ effects) current plan := by
    intro other current' plan' attempts hstage
    exact (h.planned other current' plan' attempts hstage).append hquiet
  cases hopening with
  | told queried hs =>
      rcases h.prelude queried with ⟨hrecord, hplan⟩
      exact ⟨⟨hrecord, hbuilt, hothers⟩, hplan⟩
  | heard attempt answer hs hpeer =>
      exact ⟨⟨h.record.answered _ answer, hbuilt, hothers⟩, hothers id _ _ _ hs⟩

theorem Account.asks {peers : List PeerId} (h : Account r trace)
    (hcreated : forall peer, peer ∈ peers -> r.directory.isCreated peer = true) :
    Account r (trace ++ Reconciler.asks r.directory id peers) := by
  constructor
  · apply h.record.asks
    intro e he
    rcases exists_of_mem_asks he with ⟨attempt, peer, p, hpeer, hp, rfl⟩
    have hremote := Directory.isRemote_of_isCreated (hcreated peer hpeer)
    rcases (Directory.isRemote_eq_true_iff _ peer).mp hremote with ⟨q, hq, hself⟩
    rw [hp] at hq
    cases hq
    exact ⟨id, attempt, peer, p.address, ⟨p, h.built ▸ hp, hself, rfl⟩, rfl⟩
  · rw [← h.built]
    exact (Directory.replay_append _ trace _).trans (replay_asks _ _ id _)
  · intro other current plan attempts hstage
    exact (h.planned other current plan attempts hstage).append (quiet_asks _ id _)

theorem Account.connecting (h : Account r trace) (id : RunId)
    (hplan : Planned trace current plan) (attempts : List Attempt) :
    Account (r.setStage id (.connecting current plan attempts)) trace := by
  constructor
  · exact h.record
  · exact h.built
  · intro other current' plan' attempts' hother
    by_cases hid : id = other
    · subst hid
      cases eq_of_stage?_setStage_self hother
      exact hplan
    · rw [stage?_setStage_ne r hid] at hother
      exact h.planned other current' plan' attempts' hother

theorem Turn.account (hturn : Turn r id event r' effects) (h : Account r trace)
    (halone : Alone r' effects) : Account r' (trace ++ effects) := by
  cases hturn with
  | rests _ => exact h.idle (Idle.refl r) (by simp)
  | enters kind _ => exact h.idle (idle_begin r kind) (isNotice_begin r kind)
  | starts rest _ _ => exact h.idle (idle_starts r id rest) (by simp [Effect.IsNotice])
  | fails e _ => exact h.idle (idle_conclude r id _) (isNotice_fail r id e)
  | goes d hopening _ hmore =>
      rcases h.opening hopening with ⟨hnext, hplan⟩
      rcases hmore with rfl | ⟨peers, rfl, hcreated⟩
      · rw [List.append_nil]
        exact hnext.connecting id hplan _
      · rw [← List.append_assoc]
        exact (hnext.asks hcreated).connecting id (hplan.append (quiet_asks _ id _)) _
  | ends d attempts hopening =>
      rcases h.opening hopening with ⟨hnext, hplan⟩
      rw [← List.append_assoc]
      exact hnext.complete id hplan attempts halone.of_append
  | leaves _ _ => exact h.idle (idle_abandon r id) (by simp)

theorem Aside.account (haside : Aside r event r' effects) (h : Account r trace)
    (hinner : event.IsInner) : Account r' (trace ++ effects) := by
  cases haside with
  | registers address answer =>
      exact h.idle (idle_registered r _ answer) (isNotice_registered r _ answer)
  | rests => exact h.idle (Idle.refl r) (by simp)
  | closes peer => exact hinner.elim

theorem Account.step (h : Account r trace) (hinner : event.IsInner)
    (halone : Alone (r.step event).1 (r.step event).2) :
    Account (r.step event).1 (trace ++ (r.step event).2) := by
  cases howner : r.owner? event with
  | none => exact (aside_step howner).account h hinner
  | some id => exact (turn_step howner).account h halone

theorem Ledger.step (h : Ledger r trace) (hserial : event.IsSerial) :
    Ledger (r.step event).1 (trace ++ (r.step event).2) :=
  ⟨h.toAccount.step hserial.isInner (h.orderly.alone event), h.orderly.step hserial.takesLock⟩

theorem Ledger.run {r : Reconciler} {trace : List Effect} (h : Ledger r trace)
    {history : List Event} (hserial : forall event, event ∈ history -> event.IsSerial) :
    Ledger (r.after history) (trace ++ r.trace history) := by
  induction history generalizing r trace with
  | nil =>
      rw [Reconciler.trace, List.append_nil]
      exact h
  | cons event rest ih =>
      have hstep := h.step (hserial event List.mem_cons_self)
      have hrest := ih hstep fun e he => hserial e (List.mem_cons_of_mem event he)
      rwa [List.append_assoc] at hrest

end Reconciler

/-!
## What a history keeps

A peer that has left the list does not come back.
-/

theorem Record.notMem_of_gone {trace : List Effect} {owed : List PeerId}
    (h : Record trace owed) {before between after : List Effect}
    (htrace : trace = before ++ between ++ after) {id : PeerId} (hwas : WasPublished before id)
    (hgone : id ∉ (Directory.built before).published) :
    id ∉ (Directory.built (before ++ between)).published := by
  induction between generalizing before with
  | nil =>
      rw [List.append_nil]
      exact hgone
  | cons e rest ih =>
      have hstep : id ∉ (Directory.built (before ++ [e])).published := by
        rw [built_concat]
        by_cases hquiet : forall next, e ≠ .published next
        · rw [Directory.published_record hquiet]
          exact hgone
        · rcases not_forall_not.mp hquiet with ⟨next, rfl⟩
          intro hid
          have hsplit : trace = before ++ .published next :: (rest ++ after) := by
            simpa using htrace
          rcases h.renewed before next (rest ++ after) hsplit id hid with hcurrent | hnever
          · exact hgone hcurrent
          · exact hnever hwas
      have hsplit : trace = before ++ [e] ++ rest ++ after := by simpa using htrace
      have hrest := ih hsplit (hwas.append [e]) hstep
      rwa [List.append_assoc] at hrest

/-- What the effects of a history show of the published list and of the peers that leave it. -/
structure Faithful (trace : List Effect) : Prop where
  sound : forall d, d ∈ Directory.empty.moments trace -> d.Sound
  retired : forall id, WasPublished trace id -> id ∉ (Directory.built trace).published ->
    exists p, (Directory.built trace).peer? id = some p ∧ (p.isSelf = false -> p.state = .closed)
  gone : forall before between after, trace = before ++ between ++ after ->
    forall id, WasPublished before id -> id ∉ (Directory.built before).published ->
      id ∉ (Directory.built (before ++ between)).published
  asked : forall run attempt peer address, Effect.ask run attempt peer address ∈ trace ->
    (Directory.built trace).HasRemote peer address

theorem Record.faithful {trace : List Effect} (h : Record trace []) : Faithful trace := by
  constructor
  · intro d hd
    exact (h.moments d hd).sound
  · intro id hwas hnot
    rcases h.known id hwas with ⟨p, hp⟩
    refine ⟨p, hp, ?_⟩
    intro hself
    rcases h.retired id p hwas hnot hp hself with hlink | howe
    · exact (Peer.state_eq_closed_iff p).mpr hlink
    · cases howe
  · intro before between after htrace id hwas hgone
    exact h.notMem_of_gone htrace hwas hgone
  · exact h.asked

namespace Reconciler

/-- The effects of every history in which all runs take the lock are faithful, and they account for
the directory that it leaves. -/
theorem faithful_trace (internalAddress : Option Address) (check : HealthCheck)
    {history : List Event} (hserial : forall event, event ∈ history -> event.IsSerial) :
    Directory.built ((create internalAddress check).trace history) =
        ((create internalAddress check).after history).directory ∧
      Faithful ((create internalAddress check).trace history) := by
  have hledger := (ledger_create internalAddress check).run hserial
  rw [List.nil_append] at hledger
  exact ⟨hledger.built, hledger.record.faithful⟩

def departure : List Event :=
  [.begun .serial, .granted, .answered 0 (.ok [memberB]), .replied 0 0 (.ok 1),
    .begun .serial, .granted, .answered 1 (.ok [])]

theorem faithful_trace_of_peer_that_leaves :
    (forall event, event ∈ departure -> event.IsSerial) ∧
    Directory.built ((create none (NodeHealth.check false)).trace departure) =
      ((create none (NodeHealth.check false)).after departure).directory ∧
    Faithful ((create none (NodeHealth.check false)).trace departure) := by
  have hserial : forall event, event ∈ departure -> event.IsSerial := by
    simp [departure, Event.IsSerial]
  exact ⟨hserial, faithful_trace none (NodeHealth.check false) hserial⟩

end Reconciler
end ClusterNode
