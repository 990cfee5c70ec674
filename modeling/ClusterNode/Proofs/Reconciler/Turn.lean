import ClusterNode.Proofs.Reconciler.History

/-!
# Turns of a run

An event is a step of one run or of none. What a run can do in one step is said here once: take its
place, begin its query, fail, go on with its connects, come to its end, or be dropped. A run that is
told of addresses decides at once which list it will publish, and nothing that happens later changes
its mind.
-/

namespace ClusterNode

def Plan.list (current : List PeerId) : Plan -> List PeerId
  | keep => current
  | replace next _ _ => next

def Plan.commits (d : Directory) (current : List PeerId) : Plan -> List Effect
  | keep => []
  | replace next _ _ =>
      .published next :: (Reconciler.leaving d current next).map Effect.closed

def Plan.outcome (d : Directory) (current : List PeerId) : Plan -> RunOutcome
  | keep => .unchanged
  | replace next created kept =>
      .rebuilt created kept (Reconciler.leaving d current next).length

def Event.beginnings : Event -> List RunKind
  | begun kind => [kind]
  | _ => []

namespace Reconciler

def nextInLine? (r : Reconciler) : Option RunId :=
  if r.holder = none then r.queue.head? else none

/-- The run that an event is a step of. -/
def owner? (r : Reconciler) : Event -> Option RunId
  | .registered _ _ => none
  | .begun _ => some r.runs.length
  | .granted => r.nextInLine?
  | .answered run _ => some run
  | .replied run _ _ => some run
  | .dropped run => some run
  | .closed _ => none

/-!
## The decision of a run

An answer that names the published peers confirms the list. Otherwise the run drafts another one and
puts the new peers into the directory; the list itself waits for the end of the run.
-/

/-- The answer names the published peers. -/
def confirms (r : Reconciler) (queried : List Address) : Bool :=
  Topology.sameTopology r.directory.snapshot (Topology.normalize r.selfAddress queried)

def draftOf (r : Reconciler) (queried : List Address) : Topology.Draft :=
  Topology.draft r.directory r.directory.published
    (Topology.normalize r.selfAddress queried)

/-- What a run does that is told of these addresses now. -/
def decision (r : Reconciler) (queried : List Address) : Plan :=
  if r.confirms queried then .keep
  else .replace (r.draftOf queried).next (r.draftOf queried).created (r.draftOf queried).kept

def staged (r : Reconciler) (queried : List Address) : Directory :=
  if r.confirms queried then r.directory else (r.draftOf queried).directory

def prelude (r : Reconciler) (queried : List Address) : List Effect :=
  if r.confirms queried then [r.sizeOf queried]
  else [r.sizeOf queried,
    .created ((r.draftOf queried).directory.peers.drop r.directory.peers.length)]

theorem answer_told {r : Reconciler} {id : RunId} (hs : r.stage? id = some .querying)
    (queried : List Address) :
    r.answer id (.ok queried) =
      (({ r with directory := r.staged queried }.connect id r.directory.published
          (r.decision queried) ((r.decision queried).list r.directory.published)).1,
        r.prelude queried ++
          ({ r with directory := r.staged queried }.connect id r.directory.published
            (r.decision queried) ((r.decision queried).list r.directory.published)).2) := by
  unfold answer
  rw [hs]
  dsimp only [reconcile]
  by_cases h : r.confirms queried = true
  · have hsame : Topology.sameTopology r.directory.snapshot (r.told queried) = true := h
    rw [if_pos hsame]
    unfold staged decision prelude
    rw [if_pos h, if_pos h, if_pos h]
    rfl
  · have hdiffers : ¬ Topology.sameTopology r.directory.snapshot (r.told queried) = true := h
    rw [if_neg hdiffers]
    unfold staged decision prelude
    rw [if_neg h, if_neg h, if_neg h]
    rfl

section Confirmed

variable {r : Reconciler} {queried : List Address} (h : r.confirms queried = true)

include h

theorem staged_of_confirms : r.staged queried = r.directory :=
  if_pos h

theorem decision_of_confirms : r.decision queried = .keep :=
  if_pos h

theorem prelude_of_confirms : r.prelude queried = [r.sizeOf queried] :=
  if_pos h

end Confirmed

section Known

variable {r : Reconciler} {queried : List Address}
  (hknown : forall id, id ∈ r.directory.published -> id < r.directory.peers.length)

include hknown

theorem confirms_iff : r.confirms queried = true <->
    Topology.Lists r.directory r.directory.published
      (Topology.normalize r.selfAddress queried) :=
  Topology.sameTopology_resolve_iff hknown _

theorem staged_of_not_confirms (h : ¬r.confirms queried = true) :
    r.staged queried = (r.drafted queried).directory := by
  unfold staged draftOf
  rw [if_neg h, Topology.draft_eq hknown]
  rfl

theorem decision_of_not_confirms (h : ¬r.confirms queried = true) :
    r.decision queried = r.planOf queried := by
  unfold decision draftOf
  rw [if_neg h, Topology.draft_eq hknown]
  rfl

theorem prelude_of_not_confirms (h : ¬r.confirms queried = true) :
    r.prelude queried = [r.sizeOf queried, .created (r.fresh queried)] := by
  unfold prelude draftOf
  rw [if_neg h, Topology.draft_eq hknown, List.drop_left]
  rfl

theorem grows_staged : r.directory.Grows (r.staged queried) := by
  by_cases h : r.confirms queried = true
  · rw [staged_of_confirms h]
    exact Directory.Grows.refl _
  · rw [staged_of_not_confirms hknown h]
    exact Directory.grows_append _ _

theorem replay_prelude : r.directory.replay (r.prelude queried) = r.staged queried := by
  by_cases h : r.confirms queried = true
  · rw [prelude_of_confirms h, staged_of_confirms h]
    rfl
  · rw [prelude_of_not_confirms hknown h, staged_of_not_confirms hknown h]
    rfl

end Known

/-!
## The end of a plan
-/

def carriedOut (r : Reconciler) (current : List PeerId) : Plan -> Reconciler
  | .keep => r
  | .replace next _ _ => r.replaced current next

theorem complete_eq (r : Reconciler) (id : RunId) (current : List PeerId) (plan : Plan)
    (attempts : List Attempt) :
    r.complete id current plan attempts =
      ((r.carriedOut current plan).conclude id (.ok (plan.outcome r.directory current)),
        warnings r.directory attempts ++ plan.commits r.directory current ++
          ((r.carriedOut current plan).succeed id (plan.outcome r.directory current)).2) := by
  cases plan with
  | keep =>
      rw [complete_keep]
      simp [carriedOut, Plan.outcome, Plan.commits]
  | replace next created kept =>
      rw [complete_replace]
      simp [carriedOut, Plan.outcome, Plan.commits]

/-!
## One turn

A run opens when it is told of addresses, and when a connector answers; then it goes on with its
connects or comes to its end. An answer for a run that does not wait for it does nothing.
-/

/-- How a run comes to its connects or goes on with them: what it has decided, the directory from
now on, and the effects so far. -/
inductive Opening (r : Reconciler) (id : RunId) :
    Event -> List PeerId -> Plan -> Directory -> List Effect -> Prop where
  | told (queried : List Address) : r.stage? id = some .querying ->
      Opening r id (.answered id (.ok queried)) r.directory.published (r.decision queried)
        (r.staged queried) (r.prelude queried)
  | heard (attempt : Nat) (answer : Except ClusterError Channel) {peer : PeerId}
      {current : List PeerId} {plan : Plan} {attempts : List Attempt} :
      r.stage? id = some (.connecting current plan attempts) ->
      peer ∈ attempts.map Attempt.peer ->
      Opening r id (.replied id attempt answer) current plan (r.connected peer answer).directory
        [.answered peer answer]

/-- What a run does in one step of its own. -/
inductive Turn (r : Reconciler) (id : RunId) : Event -> Reconciler -> List Effect -> Prop where
  | rests {event : Event} : event.beginnings = [] -> Turn r id event r []
  | enters (kind : RunKind) : r.runs.length = id ->
      Turn r id (.begun kind) (r.begin kind).1 (r.begin kind).2
  | starts (rest : List RunId) : r.holder = none -> r.queue = id :: rest ->
      Turn r id .granted { r.setStage id .querying with holder := some id, queue := rest }
        [.query id]
  | fails (e : ClusterError) : r.stage? id = some .querying ->
      Turn r id (.answered id (.error e)) (r.conclude id (.error e)) (r.fail id e).2
  | goes {event : Event} {current : List PeerId} {plan : Plan} (d : Directory)
      {effects more : List Effect} {attempts : List Attempt} :
      Opening r id event current plan d effects ->
      (forall peer, peer ∈ attempts.map Attempt.peer -> peer ∈ plan.list current ∨
        exists old, r.stage? id = some (.connecting current plan old) ∧
          peer ∈ old.map Attempt.peer) ->
      (more = [] ∨ exists peers, more = asks d id peers ∧
        forall peer, peer ∈ peers -> d.isCreated peer = true) ->
      Turn r id event
        ({ r with directory := d }.setStage id (.connecting current plan attempts))
        (effects ++ more)
  | ends {event : Event} {current : List PeerId} {plan : Plan} (d : Directory)
      {effects : List Effect} (attempts : List Attempt) :
      Opening r id event current plan d effects ->
      Turn r id event ({ r with directory := d }.complete id current plan attempts).1
        (effects ++ ({ r with directory := d }.complete id current plan attempts).2)
  | leaves {s : RunStage} : r.stage? id = some s -> s.isOver = false ->
      Turn r id (.dropped id) (r.abandon id) []

theorem answer_of_not_querying {r : Reconciler} {id : RunId}
    (hs : r.stage? id ≠ some .querying) (result : Except ClusterError (List Address)) :
    r.answer id result = (r, []) := by
  unfold answer
  split
  · rename_i hquerying
    exact absurd hquerying hs
  · rfl

theorem turn_answer (r : Reconciler) (id : RunId)
    (result : Except ClusterError (List Address)) :
    Turn r id (.answered id result) (r.answer id result).1 (r.answer id result).2 := by
  by_cases hs : r.stage? id = some .querying
  · cases result with
    | error e =>
        have hfail : r.answer id (.error e) = (r.conclude id (.error e), (r.fail id e).2) := by
          unfold answer
          rw [hs, ← fail_fst]
        rw [hfail]
        exact Turn.fails e hs
    | ok queried =>
        rw [answer_told hs]
        have hopening := Opening.told queried hs
        unfold connect
        cases hpending : Topology.pending (r.staged queried)
            ((r.decision queried).list r.directory.published) with
        | nil => exact Turn.ends _ [] hopening
        | cons first rest =>
            have hmem : forall peer, peer ∈ first :: rest ->
                peer ∈ (r.decision queried).list r.directory.published ∧
                  (r.staged queried).isCreated peer = true := by
              intro peer hpeer
              rw [← hpending] at hpeer
              exact List.mem_filter.mp hpeer
            refine Turn.goes _ hopening ?_ (Or.inr ⟨_, rfl, fun peer h => (hmem peer h).right⟩)
            intro peer hpeer
            rw [List.map_map] at hpeer
            rcases List.mem_map.mp hpeer with ⟨peer', hpeer', rfl⟩
            exact Or.inl (hmem peer' hpeer').left
  · rw [answer_of_not_querying hs]
    exact Turn.rests rfl

theorem map_peer_set {attempts : List Attempt} {n : Nat} {peer : PeerId}
    {result : Option (Except ClusterError Unit)} (h : attempts[n]? = some ⟨peer, result⟩)
    (result' : Option (Except ClusterError Unit)) :
    (attempts.set n ⟨peer, result'⟩).map Attempt.peer = attempts.map Attempt.peer := by
  apply List.ext_getElem?
  intro k
  rw [List.getElem?_map, List.getElem?_map, List.getElem?_set]
  split
  · rename_i hnk
    subst hnk
    rcases List.getElem?_eq_some_iff.mp h with ⟨hlt, _⟩
    rw [h, if_pos hlt]
    rfl
  · rfl

theorem turn_reply (r : Reconciler) (id : RunId) (attempt : Nat)
    (result : Except ClusterError Channel) :
    Turn r id (.replied id attempt result) (r.reply id attempt result).1
      (r.reply id attempt result).2 := by
  unfold reply
  split
  · rename_i current plan attempts hs
    split
    · rename_i peer hattempt
      split
      · rename_i p hp
        have hpeer : peer ∈ attempts.map Attempt.peer :=
          List.mem_map.mpr ⟨_, List.mem_of_getElem? hattempt, rfl⟩
        have hopening := Opening.heard attempt result hs hpeer
        have hmodify : r.directory.modify peer (fun _ => (p.finishConnect result).1) =
            (r.connected peer result).directory :=
          Directory.modify_of_peer? hp fun p => (p.finishConnect result).1
        dsimp only
        rw [hmodify]
        split
        · exact Turn.ends _ _ hopening
        · refine Turn.goes _ hopening ?_ (Or.inl rfl)
          intro other hother
          rw [map_peer_set hattempt] at hother
          exact Or.inr ⟨attempts, hs, hother⟩
      · exact Turn.rests rfl
    · exact Turn.rests rfl
  · exact Turn.rests rfl

theorem turn_abandon (r : Reconciler) (id : RunId) :
    Turn r id (.dropped id) (r.abandon id) [] := by
  cases hs : r.stage? id with
  | none =>
      have hnone : r.abandon id = r := by
        unfold abandon isOver
        rw [hs]
        rfl
      rw [hnone]
      exact Turn.rests rfl
  | some s =>
      by_cases hover : s.isOver = true
      · have hnone : r.abandon id = r := by
          unfold abandon
          exact if_pos ((isOver_eq hs).trans hover)
        rw [hnone]
        exact Turn.rests rfl
      · exact Turn.leaves hs (Bool.not_eq_true _ ▸ hover)

theorem turn_grant {r : Reconciler} {id : RunId} (h : r.nextInLine? = some id) :
    Turn r id .granted r.grant.1 r.grant.2 := by
  unfold nextInLine? at h
  split at h
  · rename_i hfree
    rcases List.head?_eq_some_iff.mp h with ⟨rest, hqueue⟩
    have hgrant : r.grant =
        ({ r.setStage id .querying with holder := some id, queue := rest },
          [.query id]) := by
      unfold grant
      rw [hfree, hqueue]
    rw [hgrant]
    exact Turn.starts rest hfree hqueue
  · cases h

theorem grant_of_nextInLine?_eq_none {r : Reconciler} (h : r.nextInLine? = none) :
    r.grant = (r, []) := by
  unfold nextInLine? at h
  unfold grant
  cases hholder : r.holder with
  | none =>
      rw [if_pos hholder] at h
      rw [List.head?_eq_none_iff.mp h]
  | some holder => rfl

/-- A step that a run owns is a turn of it. -/
theorem turn_step {r : Reconciler} {id : RunId} {event : Event}
    (h : r.owner? event = some id) : Turn r id event (r.step event).1 (r.step event).2 := by
  cases event with
  | registered address answer => cases h
  | begun kind =>
      cases h
      exact Turn.enters kind rfl
  | granted => exact turn_grant h
  | answered run answer =>
      cases h
      exact turn_answer r id answer
  | replied run attempt answer =>
      cases h
      exact turn_reply r id attempt answer
  | dropped run =>
      cases h
      exact turn_abandon r id
  | closed peer => cases h

inductive Aside (r : Reconciler) : Event -> Reconciler -> List Effect -> Prop where
  | registers (address : Address) (answer : Except ClusterError Unit) :
      Aside r (.registered address answer) (r.registered (r.announced address) answer).1
        (r.registered (r.announced address) answer).2
  | rests : Aside r .granted r []
  | closes (peer : PeerId) : Aside r (.closed peer) (r.closePeer peer) [.closed peer]

theorem aside_step {r : Reconciler} {event : Event} (h : r.owner? event = none) :
    Aside r event (r.step event).1 (r.step event).2 := by
  cases event with
  | registered address answer => exact Aside.registers address answer
  | begun kind => cases h
  | granted =>
      show Aside r .granted r.grant.1 r.grant.2
      rw [grant_of_nextInLine?_eq_none h]
      exact Aside.rests
  | answered run answer => cases h
  | replied run attempt answer => cases h
  | dropped run => cases h
  | closed peer => exact Aside.closes peer

/-!
## Effects that keep the list

Of the effects at the end of a run only the commits are about the published list. Effects are alone
when they publish no list, or leave no run at its connects.
-/

def Quiet (effects : List Effect) : Prop :=
  forall next, Effect.published next ∉ effects

theorem quiet_of_isNotice {effects : List Effect}
    (h : forall e, e ∈ effects -> e.IsNotice) : Quiet effects := by
  intro next hmem
  exact h _ hmem

theorem quiet_asks (d : Directory) (id : RunId) (peers : List PeerId) :
    Quiet (asks d id peers) := by
  intro next hmem
  rcases exists_of_mem_asks hmem with ⟨_, _, _, _, _, he⟩
  cases he

theorem Quiet.tail {e : Effect} {rest : List Effect} (h : Quiet (e :: rest)) : Quiet rest :=
  fun next hnext => h next (List.mem_cons_of_mem e hnext)

theorem Quiet.append {effects more : List Effect} (h : Quiet effects) (hmore : Quiet more) :
    Quiet (effects ++ more) := by
  intro next hnext
  rcases List.mem_append.mp hnext with hnext | hnext
  · exact h next hnext
  · exact hmore next hnext

theorem Quiet.head {e : Effect} {rest : List Effect} (h : Quiet (e :: rest)) :
    forall next, e ≠ .published next :=
  fun next he => h next (he ▸ List.mem_cons_self)

theorem published_replay {effects : List Effect} (h : Quiet effects) (d : Directory) :
    (d.replay effects).published = d.published := by
  induction effects generalizing d with
  | nil => rfl
  | cons e rest ih =>
      rw [Directory.replay_cons, ih h.tail]
      exact Directory.published_record h.head d

theorem edition_replay {effects : List Effect} (h : Quiet effects) (d : Directory) :
    (d.replay effects).edition = d.edition := by
  induction effects generalizing d with
  | nil => rfl
  | cons e rest ih =>
      rw [Directory.replay_cons, ih h.tail]
      exact Directory.edition_record h.head d

theorem exists_replace_of_mem_commits {d : Directory} {current next : List PeerId} {plan : Plan}
    (h : Effect.published next ∈ plan.commits d current) :
    exists created kept, plan = .replace next created kept := by
  cases plan with
  | keep => cases h
  | replace next' created kept =>
      rcases List.mem_cons.mp h with hnext | hclosed
      · cases hnext
        exact ⟨created, kept, rfl⟩
      · rcases List.mem_map.mp hclosed with ⟨_, _, hne⟩
        cases hne

theorem mem_commits_of_mem_complete {r : Reconciler} {id : RunId} {current next : List PeerId}
    {plan : Plan} {attempts : List Attempt}
    (h : Effect.published next ∈ (r.complete id current plan attempts).2) :
    Effect.published next ∈ plan.commits r.directory current := by
  rw [complete_eq] at h
  rcases List.mem_append.mp h with h | hreport
  · rcases List.mem_append.mp h with hwarning | hcommit
    · exact absurd hwarning (quiet_of_isNotice (isNotice_warnings _ _) next)
    · exact hcommit
  · exact absurd hreport (quiet_of_isNotice (isNotice_succeed _ _ _) next)

def Alone (r : Reconciler) (effects : List Effect) : Prop :=
  (exists next, Effect.published next ∈ effects) ->
    forall id current plan attempts, r.stage? id ≠ some (.connecting current plan attempts)

theorem Alone.quiet {r : Reconciler} {effects : List Effect} (h : Alone r effects) {id : RunId}
    {current : List PeerId} {plan : Plan} {attempts : List Attempt}
    (hs : r.stage? id = some (.connecting current plan attempts)) : Quiet effects := by
  intro next hnext
  exact h ⟨next, hnext⟩ id current plan attempts hs

theorem Alone.of_append {r : Reconciler} {effects more : List Effect}
    (h : Alone r (effects ++ more)) : Alone r more := by
  intro ⟨next, hnext⟩
  exact h ⟨next, List.mem_append_right effects hnext⟩

/-!
## What a step leaves as it is

No run is ever forgotten, its kind stays, and its stage stays while other runs step. Only a
registration changes the address of this node. A run that is at its connects goes on with the plan
that it has, and the effects of its opening account for the directory.
-/

def kinds (r : Reconciler) : List RunKind := r.runs.map Run.kind

@[simp] theorem kinds_setStage (r : Reconciler) (id : RunId) (stage : RunStage) :
    (r.setStage id stage).kinds = r.kinds := by
  unfold kinds setStage
  apply List.ext_getElem?
  intro n
  rw [List.getElem?_map, List.getElem?_map, List.getElem?_modify]
  cases r.runs[n]? with
  | none => rfl
  | some run =>
      by_cases hn : id = n
      · simp [hn]
      · simp [hn]

@[simp] theorem kinds_releaseLock (r : Reconciler) (id : RunId) :
    (r.releaseLock id).kinds = r.kinds := by
  unfold releaseLock
  split
  · rfl
  · rfl

@[simp] theorem kinds_conclude (r : Reconciler) (id : RunId)
    (result : Except ClusterError RunOutcome) : (r.conclude id result).kinds = r.kinds := by
  unfold conclude
  cases r.kindOf id with
  | serial => simp
  | bare => simp

@[simp] theorem kinds_carriedOut (r : Reconciler) (current : List PeerId) (plan : Plan) :
    (r.carriedOut current plan).kinds = r.kinds := by
  cases plan with
  | keep => rfl
  | replace next created kept => rfl

theorem kinds_abandon (r : Reconciler) (id : RunId) : (r.abandon id).kinds = r.kinds := by
  unfold abandon
  split
  · rfl
  · exact (kinds_releaseLock _ id).trans (kinds_setStage r id .abandoned)

theorem kindOf_eq (r : Reconciler) (id : RunId) : r.kindOf id = (r.kinds[id]?).getD .bare := by
  unfold kindOf kinds
  rw [List.getElem?_map]
  cases r.runs[id]? with
  | none => rfl
  | some run => rfl

theorem stage?_eq_none_iff (r : Reconciler) (id : RunId) :
    r.stage? id = none <-> r.kinds.length ≤ id := by
  unfold stage? kinds
  rw [Option.map_eq_none_iff, List.getElem?_eq_none_iff, List.length_map]

variable {r r' : Reconciler} {id other : RunId} {event : Event} {effects : List Effect}
  {current : List PeerId} {plan : Plan} {d : Directory}

theorem Opening.beginnings_eq_nil (h : Opening r id event current plan d effects) :
    event.beginnings = [] := by
  cases h with
  | told _ _ => rfl
  | heard _ _ _ _ => rfl

theorem Opening.quiet (h : Opening r id event current plan d effects) : Quiet effects := by
  intro next hnext
  cases h with
  | told queried _ =>
      unfold prelude sizeOf sizeGauge at hnext
      split at hnext
      · cases List.mem_singleton.mp hnext
      · rcases List.mem_cons.mp hnext with hsize | hcreated
        · cases hsize
        · cases List.mem_singleton.mp hcreated
  | heard _ _ _ _ => cases List.mem_singleton.mp hnext

theorem Opening.replay_eq (h : Opening r id event current plan d effects)
    (hknown : forall id, id ∈ r.directory.published -> id < r.directory.peers.length) :
    r.directory.replay effects = d := by
  cases h with
  | told queried _ => exact replay_prelude hknown
  | heard attempt answer _ _ => rfl

theorem Opening.grows (h : Opening r id event current plan d effects)
    (hknown : forall id, id ∈ r.directory.published -> id < r.directory.peers.length) :
    r.directory.Grows d := by
  rw [← h.replay_eq hknown]
  exact Directory.grows_replay _ _

theorem Opening.published_eq (h : Opening r id event current plan d effects)
    (hknown : forall id, id ∈ r.directory.published -> id < r.directory.peers.length) :
    d.published = r.directory.published := by
  rw [← h.replay_eq hknown]
  exact published_replay h.quiet r.directory

theorem Opening.edition_eq (h : Opening r id event current plan d effects)
    (hknown : forall id, id ∈ r.directory.published -> id < r.directory.peers.length) :
    d.edition = r.directory.edition := by
  rw [← h.replay_eq hknown]
  exact edition_replay h.quiet r.directory

theorem Opening.not_over (h : Opening r id event current plan d effects) :
    exists s, r.stage? id = some s ∧ s.isOver = false := by
  cases h with
  | told queried hs => exact ⟨_, hs, rfl⟩
  | heard attempt answer hs _ => exact ⟨_, hs, rfl⟩

theorem Opening.eq_of_connecting (h : Opening r id event current plan d effects)
    {current' : List PeerId} {plan' : Plan} {attempts : List Attempt}
    (hs : r.stage? id = some (.connecting current' plan' attempts)) :
    current' = current ∧ plan' = plan := by
  cases h with
  | told queried hquerying => cases hquerying.symm.trans hs
  | heard attempt answer hconnecting _ =>
      cases hconnecting.symm.trans hs
      exact ⟨rfl, rfl⟩

theorem Turn.kinds_eq (h : Turn r id event r' effects) :
    r'.kinds = r.kinds ++ event.beginnings := by
  cases h with
  | rests hnone => rw [hnone, List.append_nil]
  | enters kind _ =>
      cases kind with
      | serial => exact List.map_append
      | bare => exact List.map_append
  | starts _ _ _ => exact (kinds_setStage r id .querying).trans (List.append_nil _).symm
  | fails e _ => exact (kinds_conclude r id _).trans (List.append_nil _).symm
  | goes d hopening _ _ =>
      rw [hopening.beginnings_eq_nil, kinds_setStage, List.append_nil]
      rfl
  | ends d attempts hopening =>
      rw [hopening.beginnings_eq_nil, complete_eq, kinds_conclude, kinds_carriedOut,
        List.append_nil]
      rfl
  | leaves _ _ => exact (kinds_abandon r id).trans (List.append_nil _).symm

theorem Aside.kinds_eq (h : Aside r event r' effects) :
    r'.kinds = r.kinds ++ event.beginnings := by
  cases h with
  | registers address answer =>
      cases answer with
      | error e => exact (List.append_nil _).symm
      | ok _ => exact (List.append_nil _).symm
  | rests => exact (List.append_nil _).symm
  | closes peer => exact (List.append_nil _).symm

theorem Aside.quiet (h : Aside r event r' effects) : Quiet effects := by
  intro next hnext
  cases h with
  | registers address answer =>
      exact quiet_of_isNotice (isNotice_registered r _ answer) next hnext
  | rests => cases hnext
  | closes peer => cases List.mem_singleton.mp hnext

theorem kinds_step (r : Reconciler) (event : Event) :
    (r.step event).1.kinds = r.kinds ++ event.beginnings := by
  cases howner : r.owner? event with
  | none => exact (aside_step howner).kinds_eq
  | some id => exact (turn_step howner).kinds_eq

theorem kindOf_step (hid : id < r.kinds.length) (event : Event) :
    (r.step event).1.kindOf id = r.kindOf id := by
  rw [kindOf_eq, kindOf_eq, kinds_step, List.getElem?_append_left hid]

theorem kindOf_after (hid : id < r.kinds.length) (history : List Event) :
    (r.after history).kindOf id = r.kindOf id := by
  induction history generalizing r with
  | nil => rfl
  | cons event rest ih =>
      have hid' : id < (r.step event).1.kinds.length := by
        rw [kinds_step, List.length_append]
        exact Nat.lt_add_right _ hid
      exact (ih hid').trans (kindOf_step hid event)

theorem lt_kinds_of_stage? {s : RunStage} (hs : r.stage? id = some s) : id < r.kinds.length := by
  by_contra hle
  rw [(stage?_eq_none_iff r id).mpr (Nat.le_of_not_lt hle)] at hs
  cases hs

/-- No run is ever forgotten. -/
theorem exists_stage?_step {s : RunStage} (hs : r.stage? id = some s) (event : Event) :
    exists t, (r.step event).1.stage? id = some t := by
  have hlt := lt_kinds_of_stage? hs
  cases hnext : (r.step event).1.stage? id with
  | some t => exact ⟨t, rfl⟩
  | none =>
      have hle := (stage?_eq_none_iff _ id).mp hnext
      rw [kinds_step, List.length_append] at hle
      exact absurd hlt (Nat.not_lt_of_le (Nat.le_trans (Nat.le_add_right _ _) hle))

theorem exists_begun_of_stage?_step {s : RunStage} (hs : (r.step event).1.stage? id = some s)
    (hnew : ¬id < r.kinds.length) :
    exists kind, event = .begun kind ∧ id = r.kinds.length ∧
      (r.step event).1.kindOf id = kind := by
  have hlt := lt_kinds_of_stage? hs
  have hkinds := kinds_step r event
  rw [hkinds, List.length_append] at hlt
  rw [kindOf_eq, hkinds, List.getElem?_append_right (Nat.le_of_not_lt hnew)]
  cases event with
  | begun kind =>
      have hid : id = r.kinds.length :=
        Nat.le_antisymm (Nat.le_of_lt_succ hlt) (Nat.le_of_not_lt hnew)
      refine ⟨kind, rfl, hid, ?_⟩
      rw [hid, Nat.sub_self]
      rfl
  | registered _ _ => exact absurd hlt hnew
  | granted => exact absurd hlt hnew
  | answered _ _ => exact absurd hlt hnew
  | replied _ _ _ => exact absurd hlt hnew
  | dropped _ => exact absurd hlt hnew
  | closed _ => exact absurd hlt hnew

theorem Turn.selfAddress_eq (h : Turn r id event r' effects) :
    r'.selfAddress = r.selfAddress := by
  cases h with
  | rests _ => rfl
  | enters kind _ =>
      cases kind with
      | serial => rfl
      | bare => rfl
  | starts _ _ _ => rfl
  | fails e _ => exact selfAddress_conclude r id _
  | goes d _ _ _ => rfl
  | @ends _ _ plan d _ attempts _ =>
      rw [complete_eq, selfAddress_conclude]
      cases plan with
      | keep => rfl
      | replace next created kept => rfl
  | leaves _ _ =>
      unfold abandon
      split
      · rfl
      · exact selfAddress_releaseLock _ id

theorem selfAddress_step (hother : forall address answer, event ≠ .registered address answer) :
    (r.step event).1.selfAddress = r.selfAddress := by
  cases howner : r.owner? event with
  | none =>
      have haside := aside_step howner
      generalize (r.step event).1 = r' at haside ⊢
      generalize (r.step event).2 = effects at haside
      cases haside with
      | registers address answer => exact absurd rfl (hother address answer)
      | rests => rfl
      | closes peer => rfl
  | some id => exact (turn_step howner).selfAddress_eq

theorem stage?_complete (r : Reconciler) (id other : RunId) (current : List PeerId)
    (plan : Plan) (attempts : List Attempt) :
    (r.complete id current plan attempts).1.stage? other =
      (r.setStage id (.finished (.ok (plan.outcome r.directory current)))).stage? other := by
  rw [complete_eq, stage?_conclude, stage?_setStage, stage?_setStage]
  cases plan with
  | keep => rfl
  | replace next created kept => rfl

theorem stage?_abandon_ne (r : Reconciler) {id other : RunId} (h : id ≠ other) :
    (r.abandon id).stage? other = r.stage? other := by
  unfold abandon
  split
  · rfl
  · exact (stage?_releaseLock _ id other).trans (stage?_setStage_ne r h .abandoned)

theorem stage?_abandon_self {r : Reconciler} {id : RunId} {s : RunStage}
    (hs : r.stage? id = some s) (hover : s.isOver = false) :
    (r.abandon id).stage? id = some .abandoned := by
  have hgoing : ¬r.isOver id = true := by simp [isOver_eq hs, hover]
  unfold abandon
  rw [if_neg hgoing]
  exact (stage?_releaseLock _ id id).trans (stage?_setStage_self hs .abandoned)

theorem Turn.stage?_eq (h : Turn r id event r' effects) (hne : id ≠ other) :
    r'.stage? other = r.stage? other := by
  cases h with
  | rests _ => rfl
  | enters kind hid =>
      rw [stage?_begin, if_neg]
      intro hother
      rw [hid] at hother
      exact hne hother.symm
  | starts _ _ _ => exact stage?_setStage_ne r hne .querying
  | fails e _ => rw [stage?_conclude, stage?_setStage_ne r hne]
  | goes _ _ _ _ => exact stage?_setStage_ne _ hne _
  | ends _ attempts _ =>
      rw [stage?_complete, stage?_setStage_ne _ hne]
      rfl
  | leaves _ _ => exact stage?_abandon_ne r hne

theorem Aside.stage?_eq (h : Aside r event r' effects) : r'.stage? other = r.stage? other := by
  cases h with
  | registers address answer =>
      cases answer with
      | error e => rfl
      | ok _ => rfl
  | rests => rfl
  | closes peer => rfl

theorem stage?_step_of_owner?_ne (hother : r.owner? event ≠ some other) :
    (r.step event).1.stage? other = r.stage? other := by
  cases howner : r.owner? event with
  | none => exact (aside_step howner).stage?_eq
  | some id =>
      rw [howner] at hother
      exact (turn_step howner).stage?_eq fun hid => hother (congrArg some hid)

/-- The run comes to its end in this step and carries out its plan. -/
def Finishes (r : Reconciler) (id : RunId) (event : Event) (current : List PeerId) (plan : Plan)
    (r' : Reconciler) (effects : List Effect) : Prop :=
  exists d opening attempts, Opening r id event current plan d opening ∧
    r' = ({ r with directory := d }.complete id current plan attempts).1 ∧
    effects = opening ++ ({ r with directory := d }.complete id current plan attempts).2

/-- Only a run that comes to its end publishes a list. -/
theorem Turn.exists_finishes (h : Turn r id event r' effects) {next : List PeerId}
    (hnext : Effect.published next ∈ effects) :
    exists current created kept,
      Finishes r id event current (.replace next created kept) r' effects := by
  cases h with
  | rests _ => cases hnext
  | enters kind _ => exact absurd hnext (quiet_of_isNotice (isNotice_begin r kind) next)
  | starts _ _ _ => cases List.mem_singleton.mp hnext
  | fails e _ => exact absurd hnext (quiet_of_isNotice (isNotice_fail r id e) next)
  | goes d hopening _ hmore =>
      rcases List.mem_append.mp hnext with hopened | hasked
      · exact absurd hopened (hopening.quiet next)
      · rcases hmore with rfl | ⟨peers, rfl, _⟩
        · cases hasked
        · exact absurd hasked (quiet_asks d id peers next)
  | ends d attempts hopening =>
      rcases List.mem_append.mp hnext with hopened | hcomplete
      · exact absurd hopened (hopening.quiet next)
      · rcases exists_replace_of_mem_commits (mem_commits_of_mem_complete hcomplete) with
          ⟨created, kept, rfl⟩
        exact ⟨_, created, kept, d, _, attempts, hopening, rfl, rfl⟩
  | leaves _ _ => cases hnext

/-!
## What a step does to the directory

The effects of a step account for all that becomes of the directory, and without a new list among
them the list stays.
-/

theorem replay_commits (r : Reconciler) (current : List PeerId) (plan : Plan) :
    r.directory.replay (plan.commits r.directory current) =
      (r.carriedOut current plan).directory := by
  cases plan with
  | keep => rfl
  | replace next created kept => exact Directory.replay_closed _ _

theorem replay_complete (r : Reconciler) (id : RunId) (current : List PeerId) (plan : Plan)
    (attempts : List Attempt) :
    r.directory.replay (r.complete id current plan attempts).2 =
      (r.complete id current plan attempts).1.directory := by
  rw [complete_eq, Directory.replay_append, Directory.replay_append,
    Directory.replay_notices (isNotice_warnings _ _), replay_commits,
    Directory.replay_notices (isNotice_succeed _ _ _), directory_conclude]

theorem Turn.replay_eq (h : Turn r id event r' effects)
    (hknown : forall id, id ∈ r.directory.published -> id < r.directory.peers.length) :
    r.directory.replay effects = r'.directory := by
  cases h with
  | rests _ => rfl
  | enters kind _ =>
      rw [Directory.replay_notices (isNotice_begin r kind), (idle_begin r kind).directory]
  | starts _ _ _ => rfl
  | fails e _ =>
      rw [Directory.replay_notices (isNotice_fail r id e), directory_conclude]
  | goes d hopening _ hmore =>
      rw [Directory.replay_append, hopening.replay_eq hknown]
      rcases hmore with rfl | ⟨peers, rfl, _⟩
      · rfl
      · exact replay_asks d d id peers
  | ends d attempts hopening =>
      rw [Directory.replay_append, hopening.replay_eq hknown]
      exact replay_complete { r with directory := d } id _ _ _
  | leaves _ _ => exact (idle_abandon r id).directory.symm

theorem Aside.replay_eq (h : Aside r event r' effects) :
    r.directory.replay effects = r'.directory := by
  cases h with
  | registers address answer =>
      rw [Directory.replay_notices (isNotice_registered r _ answer),
        (idle_registered r _ answer).directory]
  | rests => rfl
  | closes peer => rfl

theorem replay_step
    (hknown : forall id, id ∈ r.directory.published -> id < r.directory.peers.length)
    (event : Event) : r.directory.replay (r.step event).2 = (r.step event).1.directory := by
  cases howner : r.owner? event with
  | none => exact (aside_step howner).replay_eq
  | some id => exact (turn_step howner).replay_eq hknown

/-- A step without a new list keeps the list. -/
theorem same_list_of_quiet
    (hknown : forall id, id ∈ r.directory.published -> id < r.directory.peers.length)
    (hquiet : Quiet (r.step event).2) :
    (r.step event).1.directory.published = r.directory.published ∧
      (r.step event).1.directory.edition = r.directory.edition := by
  rw [← replay_step hknown event]
  exact ⟨published_replay hquiet _, edition_replay hquiet _⟩

end Reconciler
end ClusterNode
