import ClusterNode.Membership
import ClusterNode.Proofs.Reconciler.Report

/-!
# A node that is a cluster of its own

What a standalone membership answers and the address that the reconciler takes for its own are two
cells. A registration writes the one and then the other, and a run reads the one and then the other;
anything may happen in between. As long as a registration and another call are never both in the
middle, the node knows itself: it lists nobody but itself and asks no connector. Otherwise it may
take itself for a remote, or note an address that it has not registered last.
-/

namespace ClusterNode

/-- A reconciler with its membership, the registrations that the membership has accepted and that
have not noted their address yet, and the answer that a run has read and not looked at yet. The run
lock admits only one run at a time to its query. -/
structure Station where
  reconciler : Reconciler
  members : Membership
  files : FileReader
  entering : List Address
  reading : Option (RunId × Except ClusterError (List Address))

inductive Move where
  | announces (address : Address)
  | notes (call : Nat)
  | begins
  | grants
  | reads (run : RunId)
  | looks
  | replies (run : RunId) (attempt : Nat) (answer : Except ClusterError Channel)
  | drops (run : RunId)

namespace Station

def take (s : Station) (event : Event) : Station × List Effect :=
  ({ s with reconciler := (s.reconciler.step event).1 }, (s.reconciler.step event).2)

def announce (s : Station) (address : Address) : Station × List Effect :=
  match s.members.register s.files (s.reconciler.announced address) with
  | (members, .ok (), warnings) =>
      ({ s with members, entering := s.entering ++ [address] }, warnings.map Effect.signal)
  | (members, .error e, warnings) =>
      let (s, effects) := { s with members }.take (.registered address (.error e))
      (s, warnings.map Effect.signal ++ effects)

def read (s : Station) (run : RunId) : Station × List Effect :=
  match s.reading, s.reconciler.stage? run with
  | none, some .querying =>
      let (answer, warnings) := s.members.query s.files
      ({ s with reading := some (run, answer) }, warnings.map Effect.signal)
  | _, _ => (s, [])

def note (s : Station) (call : Nat) : Station × List Effect :=
  match s.entering[call]? with
  | some address =>
      { s with entering := s.entering.eraseIdx call }.take (.registered address (.ok ()))
  | none => (s, [])

def look (s : Station) : Station × List Effect :=
  match s.reading with
  | some (run, answer) => { s with reading := none }.take (.answered run answer)
  | none => (s, [])

def step (s : Station) : Move -> Station × List Effect
  | .announces address => s.announce address
  | .notes call => s.note call
  | .begins => s.take (.begun .serial)
  | .grants => s.take .granted
  | .reads run => s.read run
  | .looks => s.look
  | .replies run attempt answer => s.take (.replied run attempt answer)
  | .drops run => { s with reading := s.reading.filter (·.1 != run) }.take (.dropped run)

def after (s : Station) : List Move -> Station
  | [] => s
  | move :: rest => after (s.step move).1 rest

def trace (s : Station) : List Move -> List Effect
  | [] => []
  | move :: rest => (s.step move).2 ++ trace (s.step move).1 rest

/-- A new node whose membership is standalone. -/
def standalone (internalAddress : Option Address) (check : HealthCheck) (files : FileReader) :
    Station :=
  { reconciler := .create internalAddress check
    members := .standalone none
    files
    entering := []
    reading := none }

/-- There is at most one registration in the middle, and then no run is in the middle of its two
reads. -/
def Calm (s : Station) : Prop :=
  s.entering.length ≤ 1 ∧ (s.entering = [] ∨ s.reading = none)

theorem Calm.entering_cases {s : Station} (h : s.Calm) :
    s.entering = [] ∨ exists address, s.entering = [address] ∧ s.reading = none := by
  rcases h with ⟨hlength, hapart⟩
  cases hentering : s.entering with
  | nil => exact Or.inl rfl
  | cons address rest =>
      rw [hentering] at hlength hapart
      have hrest : rest = [] := List.eq_nil_of_length_eq_zero (by simpa using hlength)
      rw [hrest]
      exact Or.inr ⟨address, rfl, hapart.resolve_left (List.cons_ne_nil address rest)⟩

instance (s : Station) : Decidable s.Calm :=
  inferInstanceAs (Decidable (s.entering.length ≤ 1 ∧ (s.entering = [] ∨ s.reading = none)))

def StaysCalm (s : Station) : List Move -> Prop
  | [] => s.Calm
  | move :: rest => s.Calm ∧ (s.step move).1.StaysCalm rest

instance decidableStaysCalm (s : Station) : (moves : List Move) -> Decidable (s.StaysCalm moves)
  | [] => inferInstanceAs (Decidable s.Calm)
  | move :: rest =>
      have := decidableStaysCalm (s.step move).1 rest
      inferInstanceAs (Decidable (s.Calm ∧ (s.step move).1.StaysCalm rest))

theorem StaysCalm.now {s : Station} {moves : List Move} (h : s.StaysCalm moves) : s.Calm := by
  cases moves with
  | nil => exact h
  | cons move rest => exact h.left

/-!
## What the effects account for

The directory after some moves is the replay of their effects.
-/

/-- The reconciler is sound after a step, and the effects of the step account for its directory. -/
def Accounted (s : Station) (result : Station × List Effect) : Prop :=
  result.1.reconciler.Rooted ∧
    s.reconciler.directory.replay result.2 = result.1.reconciler.directory

theorem replay_warnings (d : Directory) (warnings : List Signal) :
    d.replay (warnings.map Effect.signal) = d := by
  apply Directory.replay_notices
  intro e he
  rcases List.mem_map.mp he with ⟨warning, _, rfl⟩
  exact True.intro

variable {s : Station} (hrooted : s.reconciler.Rooted)

include hrooted

theorem accounted_take (event : Event) : s.Accounted (s.take event) :=
  ⟨hrooted.step event, Reconciler.replay_step hrooted.known event⟩

theorem accounted_announce (address : Address) : s.Accounted (s.announce address) := by
  unfold announce
  split
  · exact ⟨hrooted, replay_warnings _ _⟩
  · rename_i members e warnings _
    rcases accounted_take hrooted (.registered address (.error e)) with ⟨hrooted', hreplay⟩
    refine ⟨hrooted', ?_⟩
    rw [Directory.replay_append, replay_warnings]
    exact hreplay

theorem accounted_step (move : Move) : s.Accounted (s.step move) := by
  have hnothing : s.Accounted (s, []) := ⟨hrooted, rfl⟩
  cases move with
  | announces address => exact accounted_announce hrooted address
  | notes call =>
      show s.Accounted (s.note call)
      unfold note
      split
      · exact accounted_take hrooted _
      · exact hnothing
  | begins => exact accounted_take hrooted _
  | grants => exact accounted_take hrooted _
  | reads run =>
      show s.Accounted (s.read run)
      unfold read
      split
      · exact ⟨hrooted, replay_warnings _ _⟩
      · exact hnothing
  | looks =>
      show s.Accounted s.look
      unfold look
      split
      · exact accounted_take hrooted _
      · exact hnothing
  | replies run attempt answer => exact accounted_take hrooted _
  | drops run => exact accounted_take hrooted _

theorem replay_trace (moves : List Move) :
    s.reconciler.directory.replay (s.trace moves) = (s.after moves).reconciler.directory := by
  induction moves generalizing s with
  | nil => rfl
  | cons move rest ih =>
      rcases accounted_step hrooted move with ⟨hrooted', hreplay⟩
      show s.reconciler.directory.replay ((s.step move).2 ++ (s.step move).1.trace rest) = _
      rw [Directory.replay_append, hreplay]
      exact ih hrooted'

end Station

/-!
## Lone directories

Readers of a lone directory see the empty list or this node, and nobody in it has to be connected. A
node that is told of its own address alone knows it.
-/

/-- All peers are this node itself, and at most one of them is on the list. -/
structure Directory.Lone (d : Directory) : Prop where
  here : forall p, p ∈ d.peers -> p.isSelf = true
  single : d.published.length ≤ 1

def Effect.asked? : Effect -> Option Address
  | ask _ _ _ address => some address
  | _ => none

/-- Nothing is asked of a connector, and no peers or lists come in that a lone node would not have.
-/
def Effect.IsLone : Effect -> Prop
  | ask _ _ _ _ => False
  | created peers => forall p, p ∈ peers -> p.isSelf = true
  | published next => next.length ≤ 1
  | _ => True

theorem Effect.IsNotice.isLone {e : Effect} (h : e.IsNotice) : e.IsLone := by
  cases e with
  | ask _ _ _ _ => exact h
  | created _ => exact h.elim
  | published _ => exact h.elim
  | _ => exact True.intro

theorem filterMap_asked?_of_isLone {effects : List Effect}
    (h : forall e, e ∈ effects -> e.IsLone) : effects.filterMap Effect.asked? = [] := by
  rw [List.filterMap_eq_nil_iff]
  intro e he
  have hlone := h e he
  cases e with
  | ask _ _ _ _ => exact hlone.elim
  | _ => rfl

namespace Directory

variable {d : Directory}

theorem lone_empty : Directory.empty.Lone := by
  constructor
  · intro p hp
    cases hp
  · exact Nat.zero_le 1

theorem Lone.modify (h : d.Lone) (id : PeerId) {f : Peer -> Peer}
    (hf : forall p : Peer, (f p).isSelf = p.isSelf) : (d.modify id f).Lone := by
  constructor
  · intro p hp
    rcases List.getElem?_of_mem hp with ⟨n, hn⟩
    rcases exists_of_peer?_modify hn with ⟨q, hq, hp⟩
    have hself : p.isSelf = q.isSelf := by
      rcases hp with rfl | rfl
      · rfl
      · exact hf q
    rw [hself]
    exact h.here q (List.mem_of_getElem? hq)
  · exact h.single

theorem Lone.record (h : d.Lone) {e : Effect} (he : e.IsLone) : (d.record e).Lone := by
  cases e with
  | created peers =>
      refine ⟨?_, h.single⟩
      intro p hp
      rcases List.mem_append.mp hp with hold | hnew
      · exact h.here p hold
      · exact he p hnew
  | answered peer answer => exact h.modify peer fun p => Peer.isSelf_finishConnect p answer
  | published next => exact ⟨h.here, he⟩
  | closed peer => exact h.modify peer Peer.isSelf_close
  | ask _ _ _ _ => exact he.elim
  | signal _ => exact h
  | health _ => exact h
  | query _ => exact h

theorem Lone.moments (h : d.Lone) {effects : List Effect}
    (heffects : forall e, e ∈ effects -> e.IsLone) : forall m, m ∈ d.moments effects -> m.Lone := by
  induction effects generalizing d with
  | nil =>
      intro m hm
      rw [List.mem_singleton.mp hm]
      exact h
  | cons e rest ih =>
      intro m hm
      rcases List.mem_cons.mp hm with rfl | hm
      · exact h
      · have hrecord := h.record (heffects e List.mem_cons_self)
        exact ih hrecord (fun e' he' => heffects e' (List.mem_cons_of_mem e he')) m hm

theorem Lone.replay (h : d.Lone) {effects : List Effect}
    (heffects : forall e, e ∈ effects -> e.IsLone) : (d.replay effects).Lone :=
  h.moments heffects _ (replay_mem_moments d effects)

theorem Lone.snapshot (h : d.Lone) :
    d.snapshot = [] ∨ exists p, d.snapshot = [p] ∧ p.isSelf = true := by
  have hlength : d.snapshot.length ≤ 1 :=
    Nat.le_trans (List.length_filterMap_le d.peer? d.published) h.single
  cases hsnapshot : d.snapshot with
  | nil => exact Or.inl rfl
  | cons p rest =>
      right
      rw [hsnapshot] at hlength
      have hrest : rest = [] := List.eq_nil_of_length_eq_zero (by simpa using hlength)
      have hp : p ∈ d.snapshot := by
        rw [hsnapshot]
        exact List.mem_cons_self
      rcases List.mem_filterMap.mp hp with ⟨n, _, hn⟩
      refine ⟨p, ?_, h.here p (List.mem_of_getElem? hn)⟩
      rw [hrest]

theorem Lone.pending (h : d.Lone) (ids : List PeerId) : Topology.pending d ids = [] := by
  unfold Topology.pending
  rw [List.filter_eq_nil_iff]
  intro id _ hcreated
  rcases (isRemote_eq_true_iff d id).mp (isRemote_of_isCreated hcreated) with ⟨p, hp, hremote⟩
  rw [h.here p (List.mem_of_getElem? hp)] at hremote
  cases hremote

end Directory

namespace Topology

theorem isSelf_of_mem_normalize_self {selfAddress : Option Address} {a : Address}
    (h : a ∈ normalize selfAddress selfAddress.toList) : a.isSelf = true := by
  have hkey : a.key ∈ selfAddress.toList.map Address.key := by
    rw [← mem_key_normalize selfAddress]
    exact List.mem_map_of_mem h
  rw [isSelf_of_mem_normalize h, isRegistered_iff]
  cases selfAddress with
  | none => cases hkey
  | some s => exact congrArg some (List.mem_singleton.mp hkey).symm

theorem length_normalize_self (selfAddress : Option Address) :
    (normalize selfAddress selfAddress.toList).length ≤ 1 := by
  rw [← card_members]
  cases selfAddress with
  | none => exact Nat.zero_le 1
  | some s => exact Nat.le_refl 1

end Topology

namespace Reconciler

variable {r r' : Reconciler} {id : RunId} {event : Event} {effects : List Effect}
  {current : List PeerId} {plan : Plan} {d : Directory}

/-!
## While nobody connects

Without news from the membership nothing happens to the directory.
-/

def IsAtRest (r : Reconciler) : Prop :=
  forall id current plan attempts, r.stage? id ≠ some (.connecting current plan attempts)

theorem Idle.isAtRest (h : Idle r r') (hrest : r.IsAtRest) : r'.IsAtRest := by
  intro id current plan attempts hs
  exact hrest id current plan attempts (h.connecting id current plan attempts hs)

theorem Turn.idle_of_isAtRest (h : Turn r id event r' effects) (hrest : r.IsAtRest)
    (hnews : forall run queried, event ≠ .answered run (.ok queried)) :
    Idle r r' ∧ forall e, e ∈ effects -> e.IsNotice := by
  have hclosed : forall {current : List PeerId} {plan : Plan} {d : Directory}
      {opening : List Effect}, ¬Opening r id event current plan d opening := by
    intro current plan d opening hopening
    cases hopening with
    | told queried _ => exact hnews id queried rfl
    | heard attempt answer hs _ => exact hrest id _ _ _ hs
  cases h with
  | rests _ => exact ⟨Idle.refl r, by simp⟩
  | enters kind _ => exact ⟨idle_begin r kind, isNotice_begin r kind⟩
  | starts rest _ _ => exact ⟨idle_starts r id rest, by simp [Effect.IsNotice]⟩
  | fails e _ => exact ⟨idle_conclude r id _, isNotice_fail r id e⟩
  | goes d hopening _ _ => exact absurd hopening hclosed
  | ends d attempts hopening => exact absurd hopening hclosed
  | leaves _ _ => exact ⟨idle_abandon r id, by simp⟩

theorem idle_step_of_isAtRest (hrest : r.IsAtRest) (hinner : event.IsInner)
    (hnews : forall run queried, event ≠ .answered run (.ok queried)) :
    Idle r (r.step event).1 ∧ forall e, e ∈ (r.step event).2 -> e.IsNotice := by
  cases howner : r.owner? event with
  | none =>
      have haside := aside_step howner
      generalize (r.step event).1 = r' at haside ⊢
      generalize (r.step event).2 = effects at haside ⊢
      cases haside with
      | registers address answer =>
          exact ⟨idle_registered r _ answer, isNotice_registered r _ answer⟩
      | rests => exact ⟨Idle.refl r, by simp⟩
      | closes peer => exact hinner.elim
  | some id => exact (turn_step howner).idle_of_isAtRest hrest hnews

/-!
## News about this node alone

A run that is told of this node alone needs no connect, so it is over at once.
-/

theorem connect_of_pending_eq_nil {targets : List PeerId}
    (h : Topology.pending r.directory targets = []) :
    r.connect id current plan targets = r.complete id current plan [] := by
  unfold connect
  rw [h]

theorem isLone_of_mem_prelude
    (hknown : forall id, id ∈ r.directory.published -> id < r.directory.peers.length) :
    forall e, e ∈ r.prelude r.selfAddress.toList -> e.IsLone := by
  intro e he
  by_cases hconfirms : r.confirms r.selfAddress.toList = true
  · rw [prelude_of_confirms hconfirms] at he
    rw [List.mem_singleton.mp he]
    exact True.intro
  · rw [prelude_of_not_confirms hknown hconfirms] at he
    rcases List.mem_cons.mp he with rfl | he
    · exact True.intro
    · rw [List.mem_singleton.mp he]
      intro p hp
      rcases List.mem_map.mp hp with ⟨a, ha, rfl⟩
      rw [Peer.isSelf_ofAddress]
      exact Topology.isSelf_of_mem_normalize_self (List.mem_filter.mp ha).left

theorem isLone_of_mem_commits {addresses : List Address} (hplan : plan.Lists d addresses)
    (hlength : addresses.length ≤ 1) (d' : Directory) (current : List PeerId) :
    forall e, e ∈ plan.commits d' current -> e.IsLone := by
  intro e he
  cases plan with
  | keep => cases he
  | replace next created kept =>
      rcases List.mem_cons.mp he with rfl | hclosed
      · have hnext : Topology.Lists d next addresses := hplan
        rw [← hnext.length_eq] at hlength
        exact hlength
      · rcases List.mem_map.mp hclosed with ⟨peer, _, rfl⟩
        exact True.intro

theorem isAtRest_complete (h : r.IsAtRest) (id : RunId) (current : List PeerId) (plan : Plan)
    (attempts : List Attempt) : (r.complete id current plan attempts).1.IsAtRest := by
  intro other current' plan' attempts' hother
  rw [stage?_complete] at hother
  exact (idle_setStage r id (by simp)).isAtRest h other current' plan' attempts' hother

/-- A run that is told of this node alone is over at once. -/
theorem isLone_of_mem_answer
    (hknown : forall id, id ∈ r.directory.published -> id < r.directory.peers.length)
    (hlone : r.directory.Lone) (hrest : r.IsAtRest) (run : RunId) :
    (r.step (.answered run (.ok r.selfAddress.toList))).1.IsAtRest ∧
      forall e, e ∈ (r.step (.answered run (.ok r.selfAddress.toList))).2 -> e.IsLone := by
  show (r.answer run (.ok r.selfAddress.toList)).1.IsAtRest ∧
    forall e, e ∈ (r.answer run (.ok r.selfAddress.toList)).2 -> e.IsLone
  by_cases hs : r.stage? run = some .querying
  · have hprelude := isLone_of_mem_prelude hknown
    have hstaged : (r.staged r.selfAddress.toList).Lone := by
      rw [← replay_prelude hknown]
      exact hlone.replay hprelude
    have hcommits := isLone_of_mem_commits (decision_lists hknown r.selfAddress.toList)
      (Topology.length_normalize_self r.selfAddress)
    rw [answer_told hs, connect_of_pending_eq_nil (hstaged.pending _)]
    constructor
    · exact isAtRest_complete (r := { r with directory := r.staged r.selfAddress.toList }) hrest
        run _ _ []
    · intro e he
      rcases List.mem_append.mp he with he | he
      · exact hprelude e he
      · rw [complete_eq] at he
        rcases List.mem_append.mp he with he | hreport
        · exact hcommits _ _ e he
        · exact (isNotice_succeed _ _ _ e hreport).isLone
  · rw [answer_of_not_querying hs]
    exact ⟨hrest, by simp⟩

end Reconciler

/-!
## Calm stations

A step of the reconciler that is not a registration leaves the two cells alone, and one that brings
no news leaves the directory alone too. What remains are the four steps that touch a cell: an
announcement, a note, a read and a look.
-/

namespace Station

variable {s : Station} {moves : List Move}

/-- Outside a registration the two cells agree, what has been read is what they hold, and no run is
at its connects. -/
structure Settled (s : Station) : Prop where
  noted : s.entering = [] -> s.members = .standalone s.reconciler.selfAddress
  entered : forall address, s.entering = [address] ->
    s.members = .standalone (some (s.reconciler.announced address))
  read : forall run answer, s.reading = some (run, answer) ->
    answer = .ok s.reconciler.selfAddress.toList
  atRest : s.reconciler.IsAtRest

theorem settled_standalone (internalAddress : Option Address) (check : HealthCheck)
    (files : FileReader) : (standalone internalAddress check files).Settled := by
  constructor
  · intro _
    rfl
  · intro address h
    cases h
  · intro run answer h
    cases h
  · intro id current plan attempts hs
    cases hs

theorem Settled.exists_standalone (h : s.Settled) (hcalm : s.Calm) :
    exists registered, s.members = .standalone registered := by
  rcases hcalm.entering_cases with hentering | ⟨address, hentering, _⟩
  · exact ⟨_, h.noted hentering⟩
  · exact ⟨_, h.entered address hentering⟩

theorem Settled.take (h : s.Settled) {event : Event}
    (hother : forall address answer, event ≠ .registered address answer)
    (hrest : (s.reconciler.step event).1.IsAtRest) : (s.take event).1.Settled := by
  have hself := Reconciler.selfAddress_step (r := s.reconciler) hother
  constructor
  · intro hentering
    show s.members = .standalone (s.reconciler.step event).1.selfAddress
    rw [hself]
    exact h.noted hentering
  · intro address hentering
    show s.members = .standalone (some ((s.reconciler.after [event]).announced address))
    rw [Reconciler.announced_after]
    exact h.entered address hentering
  · intro run answer hreading
    show answer = .ok (s.reconciler.step event).1.selfAddress.toList
    rw [hself]
    exact h.read run answer hreading
  · exact hrest

theorem Settled.take_quiet (h : s.Settled) {event : Event} (hinner : event.IsInner)
    (hother : forall address answer, event ≠ .registered address answer)
    (hnews : forall run queried, event ≠ .answered run (.ok queried)) :
    (s.take event).1.Settled ∧ forall e, e ∈ (s.take event).2 -> e.IsLone := by
  rcases Reconciler.idle_step_of_isAtRest h.atRest hinner hnews with ⟨hidle, hnotices⟩
  exact ⟨h.take hother (hidle.isAtRest h.atRest), fun e he => (hnotices e he).isLone⟩

theorem Settled.announce (h : s.Settled) (hcalm : s.Calm) (address : Address) :
    (s.announce address).1.Settled ∧ forall e, e ∈ (s.announce address).2 -> e.IsLone := by
  rcases h.exists_standalone hcalm with ⟨registered, hmembers⟩
  have hannounce : s.announce address =
      ({ s with
          members := .standalone (some (s.reconciler.announced address))
          entering := s.entering ++ [address] }, []) := by
    unfold Station.announce
    rw [hmembers]
    rfl
  rw [hannounce]
  refine ⟨⟨?_, ?_, h.read, h.atRest⟩, by simp⟩
  · intro hentering
    exact absurd hentering (List.concat_ne_nil address s.entering)
  · intro other hentering
    have hone : s.entering ++ [address] = [] ++ [other] := hentering
    rcases List.append_inj' hone rfl with ⟨_, hsame⟩
    rw [List.singleton_inj.mp hsame]

theorem note_of_getElem?_eq_none {call : Nat} (h : s.entering[call]? = none) :
    s.note call = (s, []) := by
  unfold note
  rw [h]

theorem Settled.note (h : s.Settled) (hcalm : s.Calm) (call : Nat) :
    (s.note call).1.Settled ∧ forall e, e ∈ (s.note call).2 -> e.IsLone := by
  cases hcall : s.entering[call]? with
  | none =>
      rw [note_of_getElem?_eq_none hcall]
      exact ⟨h, by simp⟩
  | some address =>
      have hmem : address ∈ s.entering := List.mem_of_getElem? hcall
      -- The registration is the only one in the middle, so the membership still has its address.
      rcases hcalm.entering_cases with hentering | ⟨only, hentering, hreading⟩
      · rw [hentering] at hmem
        cases hmem
      · rw [hentering] at hmem
        cases List.mem_singleton.mp hmem
        have hnote : s.note call =
            ({ s with
                reconciler := { s.reconciler with
                  selfAddress := some (s.reconciler.announced address) }
                entering := s.entering.eraseIdx call }, [.health .healthy]) := by
          unfold Station.note
          rw [hcall]
          rfl
        have hempty : s.entering.eraseIdx call = [] := by
          rw [hentering]
          cases call with
          | zero => rfl
          | succ k =>
              rw [hentering] at hcall
              cases hcall
        rw [hnote, hempty]
        refine ⟨⟨?_, ?_, ?_, h.atRest⟩, ?_⟩
        · intro _
          exact h.entered address hentering
        · intro other hother
          cases hother
        · intro run answer hread
          cases hreading.symm.trans hread
        · intro e he
          rw [List.mem_singleton.mp he]
          exact True.intro

theorem Settled.reads (h : s.Settled) {run : RunId} (hcalm : (s.read run).1.Calm) :
    (s.read run).1.Settled ∧ forall e, e ∈ (s.read run).2 -> e.IsLone := by
  unfold Station.read at hcalm ⊢
  split
  · rename_i hreading hquerying
    rw [hreading, hquerying] at hcalm
    -- The new state is calm, so the answer does not run ahead of a registration.
    have hentering : s.entering = [] := hcalm.right.resolve_right (Option.some_ne_none _)
    have hanswer : s.members.query s.files = (.ok s.reconciler.selfAddress.toList, []) := by
      rw [h.noted hentering]
      rfl
    rw [hanswer]
    refine ⟨⟨h.noted, h.entered, ?_, h.atRest⟩, by simp⟩
    intro run' answer hread
    cases hread
    rfl
  · exact ⟨h, by simp⟩

theorem Settled.look (h : s.Settled) (hrooted : s.reconciler.Rooted)
    (hlone : s.reconciler.directory.Lone) :
    (s.look).1.Settled ∧ forall e, e ∈ (s.look).2 -> e.IsLone := by
  cases hreading : s.reading with
  | none =>
      have hlook : s.look = (s, []) := by
        unfold Station.look
        rw [hreading]
      rw [hlook]
      exact ⟨h, by simp⟩
  | some reading =>
      rcases reading with ⟨run, answer⟩
      have hlook : s.look = { s with reading := none }.take
          (.answered run (.ok s.reconciler.selfAddress.toList)) := by
        unfold Station.look
        rw [hreading, h.read run answer hreading]
      have hfree : { s with reading := none }.Settled :=
        ⟨h.noted, h.entered, by simp, h.atRest⟩
      rcases Reconciler.isLone_of_mem_answer hrooted.known hlone h.atRest run with
        ⟨hrest, heffects⟩
      rw [hlook]
      exact ⟨hfree.take (by simp) hrest, heffects⟩

theorem Settled.drop (h : s.Settled) (run : RunId) :
    { s with reading := s.reading.filter (·.1 != run) }.Settled := by
  refine ⟨h.noted, h.entered, ?_, h.atRest⟩
  intro run' answer hread
  exact h.read run' answer (Option.filter_eq_some_iff.mp hread).left

/-- A calm station stays settled, and nothing is done that a lone node would not do. -/
theorem Settled.step (h : s.Settled) (hrooted : s.reconciler.Rooted)
    (hlone : s.reconciler.directory.Lone) (hcalm : s.Calm) {move : Move}
    (hcalm' : (s.step move).1.Calm) :
    (s.step move).1.Settled ∧ forall e, e ∈ (s.step move).2 -> e.IsLone := by
  cases move with
  | announces address => exact h.announce hcalm address
  | notes call => exact h.note hcalm call
  | begins => exact h.take_quiet True.intro (by simp) (by simp)
  | grants => exact h.take_quiet True.intro (by simp) (by simp)
  | reads run => exact h.reads hcalm'
  | looks => exact h.look hrooted hlone
  | replies run attempt answer => exact h.take_quiet True.intro (by simp) (by simp)
  | drops run => exact (h.drop run).take_quiet True.intro (by simp) (by simp)

theorem Settled.run (h : s.Settled) (hrooted : s.reconciler.Rooted)
    (hlone : s.reconciler.directory.Lone) (hcalm : s.StaysCalm moves) :
    (s.after moves).Settled ∧ forall e, e ∈ s.trace moves -> e.IsLone := by
  induction moves generalizing s with
  | nil => exact ⟨h, by simp [trace]⟩
  | cons move rest ih =>
      rcases h.step hrooted hlone hcalm.left hcalm.right.now with ⟨hsettled, hfirst⟩
      rcases accounted_step hrooted move with ⟨hrooted', hreplay⟩
      have hlone' : (s.step move).1.reconciler.directory.Lone := by
        rw [← hreplay]
        exact hlone.replay hfirst
      rcases ih hsettled hrooted' hlone' hcalm.right with ⟨hend, hlater⟩
      refine ⟨hend, ?_⟩
      intro e he
      rcases List.mem_append.mp he with he | he
      · exact hfirst e he
      · exact hlater e he

/-- As long as a registration and another call are never both in the middle, readers see nobody but
this node at any moment, no connector is asked, and without a registration in the middle the noted
address is the one that the membership answers with. -/
theorem knows_itself {internalAddress : Option Address} {check : HealthCheck} {files : FileReader}
    {moves : List Move} (hcalm : (standalone internalAddress check files).StaysCalm moves) :
    (forall m, m ∈ Directory.empty.moments ((standalone internalAddress check files).trace moves) ->
      m.snapshot = [] ∨ exists p, m.snapshot = [p] ∧ p.isSelf = true) ∧
    ((standalone internalAddress check files).trace moves).filterMap Effect.asked? = [] ∧
    (((standalone internalAddress check files).after moves).entering = [] ->
      (((standalone internalAddress check files).after moves).members.query files).1 =
        .ok ((standalone internalAddress check files).after
          moves).reconciler.selfAddress.toList) := by
  have hrooted := Reconciler.rooted_create internalAddress check
  rcases (settled_standalone internalAddress check files).run hrooted Directory.lone_empty hcalm
    with ⟨hsettled, hlone⟩
  refine ⟨?_, filterMap_asked?_of_isLone hlone, ?_⟩
  · intro m hm
    exact (Directory.lone_empty.moments hlone m hm).snapshot
  · intro hentering
    rw [hsettled.noted hentering]
    rfl

def addressA : Address := { host := "10.0.0.1", port := 11800 }

def addressB : Address := { host := "10.0.0.9", port := 11800 }

def plain : Station := standalone none (NodeHealth.check false) fun _ => .error .notFound

def inTurn : List Move := [.announces addressA, .notes 0, .begins, .grants, .reads 0, .looks]

theorem knows_itself_in_turn :
    plain.StaysCalm inTurn ∧
    (plain.after inTurn).reconciler.directory.snapshot =
      [{ address := addressA.withSelf true, link := .here }] ∧
    (forall m, m ∈ Directory.empty.moments (plain.trace inTurn) ->
      m.snapshot = [] ∨ exists p, m.snapshot = [p] ∧ p.isSelf = true) ∧
    (plain.trace inTurn).filterMap Effect.asked? = [] ∧
    ((plain.after inTurn).entering = [] ->
      ((plain.after inTurn).members.query fun _ => .error .notFound).1 =
        .ok (plain.after inTurn).reconciler.selfAddress.toList) := by
  have hcalm : plain.StaysCalm inTurn := by decide +kernel
  exact ⟨hcalm, by decide +kernel, knows_itself hcalm⟩

/-- A run comes between the two writes of a registration. -/
def early : List Move :=
  [.announces addressA, .begins, .grants, .reads 0, .looks, .replies 0 0 (.ok 1)]

/-- Two registrations write the first cell in one order and the second one in the other. -/
def crossed : List Move :=
  [.announces addressA, .announces addressB, .notes 1, .notes 0]

/-- The early run connects to this node and lists it as a remote. After the crossed registrations
the node takes another address for its own than the one that it has registered last. -/
theorem mistakes_itself :
    (plain.trace early).filterMap Effect.asked? = [addressA] ∧
    (plain.after early).reconciler.directory.snapshot =
      [{ address := addressA, link := .connected 1 }] ∧
    (plain.after crossed).entering = [] ∧
    (plain.after crossed).members = .standalone (some (addressB.withSelf true)) ∧
    (plain.after crossed).reconciler.selfAddress = some (addressA.withSelf true) := by
  decide +kernel

end Station
end ClusterNode
