import ClusterNode.Proofs.Reconciler.Turn

/-!
# The run lock

The serial run that queries or connects is the holder of the lock, so there is never a second one,
and the queue holds runs that wait, each of them once. Bare runs do not take the lock and do not
disturb it. In a history in which all runs take the lock there is never more than one active run. A
run that is alone in using the lock leaves it free when it is over.
-/

namespace ClusterNode

def RunStage.IsActive : RunStage -> Prop
  | querying => True
  | connecting _ _ _ => True
  | _ => False

def RunStage.BeyondQuery : RunStage -> Prop
  | waiting => False
  | querying => False
  | finished (.error _) => False
  | _ => True

/-- Every run that begins is a serial one. -/
def Event.TakesLock : Event -> Prop
  | begun kind => kind = RunKind.serial
  | _ => True

def Event.IsInner : Event -> Prop
  | closed _ => False
  | _ => True

theorem Event.IsSerial.isInner {event : Event} (h : event.IsSerial) : event.IsInner := by
  cases event with
  | closed peer => exact h
  | _ => exact True.intro

theorem Event.IsSerial.takesLock {event : Event} (h : event.IsSerial) : event.TakesLock := by
  cases event with
  | begun kind => exact h
  | _ => exact True.intro

namespace Reconciler

structure Locked (r : Reconciler) : Prop where
  single : forall id s, r.stage? id = some s -> s.IsActive -> r.kindOf id = RunKind.serial ->
    r.holder = some id
  queued : forall id, id ∈ r.queue -> r.stage? id = some .waiting
  nodup : r.queue.Nodup

/-- Only serial runs wait for the lock, and only a run that uses it holds it. -/
structure Held (r : Reconciler) : Prop where
  waits : forall id, r.stage? id = some .waiting -> r.kindOf id = RunKind.serial
  holds : forall id, r.holder = some id -> r.kindOf id = RunKind.serial ∧
    exists s, r.stage? id = some s ∧ s.IsActive

/-- All runs take the lock. -/
structure Orderly (r : Reconciler) : Prop where
  serial : forall id s, r.stage? id = some s -> r.kindOf id = RunKind.serial
  single : forall id s, r.stage? id = some s -> s.IsActive -> r.holder = some id
  queued : forall id, id ∈ r.queue -> r.stage? id = some .waiting
  nodup : r.queue.Nodup

theorem locked_create (internalAddress : Option Address) (check : HealthCheck) :
    (create internalAddress check).Locked := by
  constructor
  · intro id s h
    cases h
  · intro id h
    cases h
  · exact List.nodup_nil

theorem held_create (internalAddress : Option Address) (check : HealthCheck) :
    (create internalAddress check).Held := by
  constructor
  · intro id h
    cases h
  · intro id h
    cases h

theorem orderly_create (internalAddress : Option Address) (check : HealthCheck) :
    (create internalAddress check).Orderly := by
  constructor
  · intro id s h
    cases h
  · intro id s h
    cases h
  · intro id h
    cases h
  · exact List.nodup_nil

theorem Orderly.locked {r : Reconciler} (h : r.Orderly) : r.Locked :=
  ⟨fun id s hs hactive _ => h.single id s hs hactive, h.queued, h.nodup⟩

theorem Locked.orderly {r : Reconciler} (h : r.Locked)
    (hserial : forall id s, r.stage? id = some s -> r.kindOf id = RunKind.serial) : r.Orderly :=
  ⟨hserial, fun id s hs hactive => h.single id s hs hactive (hserial id s hs), h.queued, h.nodup⟩

/-- Two active runs are the same run. -/
theorem Orderly.eq_of_isActive {r : Reconciler} (h : r.Orderly) {id other : RunId}
    {s t : RunStage} (hid : r.stage? id = some s) (hs : s.IsActive)
    (hother : r.stage? other = some t) (ht : t.IsActive) : other = id := by
  have hholder := h.single id s hid hs
  rw [h.single other t hother ht] at hholder
  exact Option.some.inj hholder

theorem Locked.notMem_queue {r : Reconciler} (h : r.Locked) {id : RunId} {s : RunStage}
    (hid : r.stage? id = some s) (hs : s ≠ .waiting) : id ∉ r.queue := by
  intro hmem
  rw [h.queued id hmem] at hid
  exact hs (Option.some.inj hid).symm

theorem ne_waiting_of_isActive {s : RunStage} (h : s.IsActive) : s ≠ .waiting := by
  intro hs
  rw [hs] at h
  exact h

theorem isOver_of_isActive {s : RunStage} (h : s.IsActive) : s.isOver = false := by
  cases s with
  | querying => rfl
  | connecting _ _ _ => rfl
  | waiting => exact h.elim
  | finished _ => exact h.elim
  | abandoned => exact h.elim

/-!
## Changes of a reconciler

The lock may be given back when its run is not active any more.
-/

variable {r r' : Reconciler} {id : RunId} {s : RunStage} {event : Event} {effects : List Effect}

theorem Locked.withDirectory (h : r.Locked) (d : Directory) :
    { r with directory := d }.Locked :=
  ⟨h.single, h.queued, h.nodup⟩

theorem Locked.setStage (h : r.Locked) {stage : RunStage} (hqueue : id ∉ r.queue)
    (hactive : stage.IsActive -> r.kindOf id = RunKind.serial -> r.holder = some id) :
    (r.setStage id stage).Locked := by
  constructor
  · intro other t ht htactive
    rw [holder_setStage, kindOf_setStage]
    by_cases hid : id = other
    · subst hid
      rw [eq_of_stage?_setStage_self ht] at htactive
      exact hactive htactive
    · rw [stage?_setStage_ne r hid] at ht
      exact h.single other t ht htactive
  · intro other hother
    have hid : id ≠ other := by
      intro heq
      exact hqueue (heq ▸ hother)
    rw [stage?_setStage_ne r hid]
    exact h.queued other hother
  · exact h.nodup

@[simp] theorem queue_releaseLock (r : Reconciler) (id : RunId) :
    (r.releaseLock id).queue = r.queue := by
  unfold Reconciler.releaseLock
  split
  · rfl
  · rfl

theorem Locked.releaseLock (h : r.Locked)
    (hover : forall s, r.stage? id = some s -> ¬s.IsActive) : (r.releaseLock id).Locked := by
  constructor
  · intro other t ht hactive hkind
    rw [stage?_releaseLock] at ht
    rw [kindOf_releaseLock] at hkind
    have hholder := h.single other t ht hactive hkind
    rw [holder_releaseLock, hholder]
    have hne : ¬some other = some id := by
      intro heq
      rw [Option.some.inj heq] at ht
      exact hover t ht hactive
    rw [if_neg hne]
  · intro other hother
    rw [stage?_releaseLock]
    rw [queue_releaseLock] at hother
    exact h.queued other hother
  · rw [queue_releaseLock]
    exact h.nodup

theorem Locked.conclude (h : r.Locked) (hs : r.stage? id = some s) (hactive : s.IsActive)
    (result : Except ClusterError RunOutcome) : (r.conclude id result).Locked := by
  have hqueue := h.notMem_queue hs (ne_waiting_of_isActive hactive)
  have hset : (r.setStage id (.finished result)).Locked := h.setStage hqueue False.elim
  unfold Reconciler.conclude
  cases r.kindOf id with
  | bare => exact hset
  | serial =>
      refine hset.releaseLock ?_
      intro t ht
      rw [eq_of_stage?_setStage_self ht]
      exact not_false

theorem Locked.complete (h : r.Locked) (hs : r.stage? id = some s) (hactive : s.IsActive)
    (current : List PeerId) (plan : Plan) (attempts : List Attempt) :
    (r.complete id current plan attempts).1.Locked := by
  rw [complete_eq]
  cases plan with
  | keep => exact h.conclude hs hactive _
  | replace next created kept =>
      have hreplaced : (r.replaced current next).Locked := h.withDirectory _
      exact hreplaced.conclude hs hactive _

theorem Locked.connecting (h : r.Locked) (hs : r.stage? id = some s) (hactive : s.IsActive)
    (stage : RunStage) : (r.setStage id stage).Locked :=
  h.setStage (h.notMem_queue hs (ne_waiting_of_isActive hactive)) fun _ =>
    h.single id s hs hactive

theorem Locked.begin (h : r.Locked) (kind : RunKind) : (r.begin kind).1.Locked := by
  have hfresh : r.stage? r.runs.length = none := by simp [stage?]
  have hold : forall id, id ∈ r.queue -> (r.begin kind).1.stage? id = some .waiting := by
    intro id hid
    rw [stage?_begin, if_neg]
    · exact h.queued id hid
    · intro hnew
      rw [hnew] at hid
      cases hfresh.symm.trans (h.queued _ hid)
  constructor
  · intro id s hs hactive hkind
    rw [stage?_begin] at hs
    rw [kindOf_begin] at hkind
    split at hs
    · rename_i hnew
      rw [if_pos hnew] at hkind
      subst hkind
      cases hs
      cases hactive
    · rename_i hne
      rw [if_neg hne] at hkind
      have hholder := h.single id s hs hactive hkind
      cases kind with
      | serial => exact hholder
      | bare => exact hholder
  · intro id hid
    cases kind with
    | serial =>
        have hid' : id ∈ r.queue ++ [r.runs.length] := hid
        rcases List.mem_append.mp hid' with hmem | hnew
        · exact hold id hmem
        · rw [List.mem_singleton.mp hnew, stage?_begin, if_pos rfl]
          rfl
    | bare => exact hold id hid
  · cases kind with
    | serial =>
        have hnew : r.runs.length ∉ r.queue := by
          intro hmem
          rw [h.queued _ hmem] at hfresh
          cases hfresh
        have hnodup := (List.nodup_concat r.queue r.runs.length).mpr ⟨hnew, h.nodup⟩
        rwa [List.concat_eq_append] at hnodup
    | bare => exact h.nodup

theorem Locked.starts (h : r.Locked) {rest : List RunId} (hfree : r.holder = none)
    (hqueue : r.queue = id :: rest) :
    { r.setStage id .querying with holder := some id, queue := rest }.Locked := by
  have hnodup := h.nodup
  rw [hqueue] at hnodup
  rcases List.nodup_cons.mp hnodup with ⟨hnot, hrest⟩
  have htaken : { r with holder := some id, queue := rest }.Locked := by
    constructor
    · intro other s hs hactive hkind
      rw [h.single other s hs hactive hkind] at hfree
      cases hfree
    · intro other hother
      exact h.queued other (hqueue ▸ List.mem_cons_of_mem id hother)
    · exact hrest
  exact htaken.setStage hnot fun _ _ => rfl

theorem Locked.abandon (h : r.Locked) (id : RunId) : (r.abandon id).Locked := by
  unfold Reconciler.abandon
  split
  · exact h
  · have hleft : { r with queue := r.queue.filter (· != id) }.Locked := by
      constructor
      · exact h.single
      · intro other hother
        exact h.queued other (List.mem_filter.mp hother).left
      · exact h.nodup.filter _
    have hset : ({ r with queue := r.queue.filter (· != id) }.setStage id .abandoned).Locked :=
      hleft.setStage (by simp) False.elim
    have hover : forall s, ({ r with queue := r.queue.filter (· != id) }.setStage id
        .abandoned).stage? id = some s -> ¬s.IsActive := by
      intro s hs
      rw [eq_of_stage?_setStage_self hs]
      exact not_false
    have hfree := hset.releaseLock hover
    have hsame :
        ({ r with queue := r.queue.filter (· != id) }.setStage id .abandoned).releaseLock id =
          { (r.setStage id .abandoned).releaseLock id with
            queue := r.queue.filter (· != id) } := by
      unfold Reconciler.releaseLock Reconciler.setStage
      dsimp only
      split <;> rfl
    rw [hsame] at hfree
    dsimp only
    rw [queue_releaseLock]
    exact hfree

/-!
## Steps

A run that is over takes no further turn and stays as it is, and no run queries twice. The run that
publishes is the only active one, and then it is over.
-/

theorem Opening.exists_active {current : List PeerId} {plan : Plan} {d : Directory}
    (h : Opening r id event current plan d effects) :
    exists s, r.stage? id = some s ∧ s.IsActive := by
  cases h with
  | told queried hs => exact ⟨_, hs, True.intro⟩
  | heard attempt answer hs _ => exact ⟨_, hs, True.intro⟩

theorem Turn.locked (h : Turn r id event r' effects) (hlocked : r.Locked) : r'.Locked := by
  cases h with
  | rests _ => exact hlocked
  | enters kind _ => exact hlocked.begin kind
  | starts _ hfree hqueue => exact hlocked.starts hfree hqueue
  | fails e hs => exact hlocked.conclude hs True.intro _
  | goes d hopening _ _ =>
      rcases hopening.exists_active with ⟨s, hs, hactive⟩
      have hd : { r with directory := d }.Locked := hlocked.withDirectory d
      exact hd.connecting hs hactive _
  | ends d attempts hopening =>
      rcases hopening.exists_active with ⟨s, hs, hactive⟩
      have hd : { r with directory := d }.Locked := hlocked.withDirectory d
      exact hd.complete hs hactive _ _ _
  | leaves _ _ => exact hlocked.abandon id

theorem Aside.locked (h : Aside r event r' effects) (hlocked : r.Locked) : r'.Locked := by
  cases h with
  | registers address answer =>
      cases answer with
      | error _ => exact hlocked
      | ok _ => exact ⟨hlocked.single, hlocked.queued, hlocked.nodup⟩
  | rests => exact hlocked
  | closes peer => exact hlocked.withDirectory _

theorem Locked.step (h : r.Locked) (event : Event) : (r.step event).1.Locked := by
  cases howner : r.owner? event with
  | none => exact (aside_step howner).locked h
  | some id => exact (turn_step howner).locked h

theorem Locked.run (h : r.Locked) (history : List Event) : (r.after history).Locked := by
  induction history generalizing r with
  | nil => exact h
  | cons event rest ih => exact ih (h.step event)

theorem Orderly.alone (h : r.Orderly) (event : Event) :
    Alone (r.step event).1 (r.step event).2 := by
  intro ⟨next, hnext⟩ other current plan attempts hother
  cases howner : r.owner? event with
  | none => exact (aside_step howner).quiet next hnext
  | some id =>
      have hturn := turn_step howner
      rcases hturn.exists_finishes hnext with
        ⟨current', created, kept, d, opening, attempts', hopening, hend, _⟩
      rcases hopening.exists_active with ⟨s, hs, hactive⟩
      by_cases hid : id = other
      · subst hid
        rw [hend, stage?_complete] at hother
        cases eq_of_stage?_setStage_self hother
      · rw [hturn.stage?_eq hid] at hother
        exact hid (h.eq_of_isActive hs hactive hother True.intro).symm

theorem Turn.eq_of_isOver (h : Turn r id event r' effects) (hlocked : r.Locked)
    (hs : r.stage? id = some s) (hover : s.isOver = true) : r' = r ∧ effects = [] := by
  have hnot : forall t, r.stage? id = some t -> ¬t.isOver = false := by
    intro t ht hgoing
    rw [hs] at ht
    cases ht
    rw [hover] at hgoing
    cases hgoing
  cases h with
  | rests _ => exact ⟨rfl, rfl⟩
  | enters kind hid =>
      have hnone : r.stage? id = none := by
        rw [← hid]
        simp [stage?]
      cases hnone.symm.trans hs
  | starts _ _ hqueue =>
      exact absurd rfl (hnot _ (hlocked.queued id (hqueue ▸ List.mem_cons_self)))
  | fails e hquerying => exact absurd rfl (hnot _ hquerying)
  | goes d hopening _ _ =>
      cases hopening with
      | told queried hquerying => exact absurd rfl (hnot _ hquerying)
      | heard attempt answer hconnecting _ => exact absurd rfl (hnot _ hconnecting)
  | ends d attempts hopening =>
      cases hopening with
      | told queried hquerying => exact absurd rfl (hnot _ hquerying)
      | heard attempt answer hconnecting _ => exact absurd rfl (hnot _ hconnecting)
  | leaves ht hgoing => exact absurd hgoing (hnot _ ht)

theorem stage?_step_of_isOver (hlocked : r.Locked) (hs : r.stage? id = some s)
    (hover : s.isOver = true) (event : Event) : (r.step event).1.stage? id = some s := by
  by_cases howner : r.owner? event = some id
  · rw [((turn_step howner).eq_of_isOver hlocked hs hover).left]
    exact hs
  · rw [stage?_step_of_owner?_ne howner]
    exact hs

theorem stage?_after_of_isOver (hlocked : r.Locked) (hs : r.stage? id = some s)
    (hover : s.isOver = true) (history : List Event) :
    (r.after history).stage? id = some s := by
  induction history generalizing r with
  | nil => exact hs
  | cons event rest ih =>
      exact ih (hlocked.step event) (stage?_step_of_isOver hlocked hs hover event)

theorem stage?_append_of_isOver (hlocked : r.Locked) {history : List Event}
    (hs : (r.after history).stage? id = some s) (hover : s.isOver = true) (more : List Event) :
    (r.after (history ++ more)).stage? id = some s := by
  rw [after_append]
  exact stage?_after_of_isOver (hlocked.run history) hs hover more

theorem Turn.beyondQuery (h : Turn r id event r' effects) (hlocked : r.Locked)
    (hs : r.stage? id = some s) (hbeyond : s.BeyondQuery) :
    exists t, r'.stage? id = some t ∧ t.BeyondQuery := by
  cases h with
  | rests _ => exact ⟨s, hs, hbeyond⟩
  | enters kind hid =>
      have hnone : r.stage? id = none := by
        rw [← hid]
        simp [stage?]
      cases hnone.symm.trans hs
  | starts _ _ hqueue =>
      cases (hlocked.queued id (hqueue ▸ List.mem_cons_self)).symm.trans hs
      cases hbeyond
  | fails e hquerying =>
      cases hquerying.symm.trans hs
      cases hbeyond
  | goes d _ _ _ =>
      have hs' : { r with directory := d }.stage? id = some s := hs
      exact ⟨_, stage?_setStage_self hs' _, True.intro⟩
  | ends d attempts _ =>
      have hs' : { r with directory := d }.stage? id = some s := hs
      rw [stage?_complete]
      exact ⟨_, stage?_setStage_self hs' _, True.intro⟩
  | leaves hs' hgoing => exact ⟨_, stage?_abandon_self hs' hgoing, True.intro⟩

theorem beyondQuery_after (hlocked : r.Locked) (hs : r.stage? id = some s)
    (hbeyond : s.BeyondQuery) (history : List Event) :
    exists t, (r.after history).stage? id = some t ∧ t.BeyondQuery := by
  induction history generalizing r s with
  | nil => exact ⟨s, hs, hbeyond⟩
  | cons event rest ih =>
      by_cases howner : r.owner? event = some id
      · rcases (turn_step howner).beyondQuery hlocked hs hbeyond with ⟨t, ht, hbeyond'⟩
        exact ih (hlocked.step event) ht hbeyond'
      · exact ih (hlocked.step event) ((stage?_step_of_owner?_ne howner).trans hs) hbeyond

theorem beyondQuery_told (hs : r.stage? id = some .querying) (queried : List Address) :
    exists t, (r.step (.answered id (.ok queried))).1.stage? id = some t ∧ t.BeyondQuery := by
  show exists t, (r.answer id (.ok queried)).1.stage? id = some t ∧ t.BeyondQuery
  have hs' : { r with directory := r.staged queried }.stage? id = some .querying := hs
  rw [answer_told hs]
  unfold connect
  split
  · rw [stage?_complete]
    exact ⟨_, stage?_setStage_self hs' _, True.intro⟩
  · exact ⟨_, stage?_setStage_self hs' _, True.intro⟩

/-!
## The holder

A run that changes its stage leaves the others as they are. The run at the head of the queue is a
serial one that waits, and a run that ends does not keep the lock.
-/

theorem Held.of_frame (h : r.Held) (hkind : forall other, r'.kindOf other = r.kindOf other)
    (hstage : forall other, id ≠ other -> r'.stage? other = r.stage? other)
    (hwaits : r'.stage? id ≠ some .waiting)
    (hholder : forall other, r'.holder = some other -> r.holder = some other)
    (hself : r'.holder = some id -> exists s, r'.stage? id = some s ∧ s.IsActive) : r'.Held := by
  constructor
  · intro other hother
    rw [hkind]
    by_cases hid : id = other
    · subst hid
      exact absurd hother hwaits
    · rw [hstage other hid] at hother
      exact h.waits other hother
  · intro other hother
    rcases h.holds other (hholder other hother) with ⟨hserial, hactive⟩
    refine ⟨(hkind other).trans hserial, ?_⟩
    by_cases hid : id = other
    · subst hid
      exact hself hother
    · rw [hstage other hid]
      exact hactive

theorem holder_conclude (r : Reconciler) (id : RunId) (result : Except ClusterError RunOutcome) :
    (r.conclude id result).holder =
      if r.kindOf id = .serial ∧ r.holder = some id then none else r.holder := by
  unfold conclude
  cases r.kindOf id with
  | bare => simp
  | serial =>
      dsimp only
      rw [holder_releaseLock, holder_setStage]
      by_cases hself : r.holder = some id
      · simp [hself]
      · simp [hself]

theorem Held.conclude (h : r.Held) (result : Except ClusterError RunOutcome) :
    (r.conclude id result).Held := by
  have hholder := holder_conclude r id result
  apply @Held.of_frame r (r.conclude id result) id h
  · intro other
    exact kindOf_conclude r id other result
  · intro other hne
    rw [stage?_conclude, stage?_setStage_ne r hne]
  · intro hwaiting
    rw [stage?_conclude] at hwaiting
    cases eq_of_stage?_setStage_self hwaiting
  · intro other hother
    rw [hholder] at hother
    split at hother
    · cases hother
    · exact hother
  · intro hself
    rw [hholder] at hself
    split at hself
    · cases hself
    · rename_i hnot
      exact absurd ⟨(h.holds id hself).left, hself⟩ hnot

theorem holder_abandon (r : Reconciler) {id : RunId} (hgoing : r.isOver id = false) :
    (r.abandon id).holder = if r.holder = some id then none else r.holder := by
  unfold Reconciler.abandon
  rw [hgoing]
  exact holder_releaseLock (r.setStage id .abandoned) id

theorem Held.abandon (h : r.Held) (hs : r.stage? id = some s) (hgoing : s.isOver = false) :
    (r.abandon id).Held := by
  have hholder := holder_abandon r ((isOver_eq hs).trans hgoing)
  apply @Held.of_frame r (r.abandon id) id h
  · intro other
    rw [kindOf_eq, kindOf_eq, kinds_abandon]
  · intro other hne
    exact stage?_abandon_ne r hne
  · intro hwaiting
    cases (stage?_abandon_self hs hgoing).symm.trans hwaiting
  · intro other hother
    rw [hholder] at hother
    split at hother
    · cases hother
    · exact hother
  · intro hself
    rw [hholder] at hself
    split at hself
    · cases hself
    · rename_i hnot
      exact absurd hself hnot

theorem Held.begin (h : r.Held) (kind : RunKind) : (r.begin kind).1.Held := by
  have hholder : (r.begin kind).1.holder = r.holder := by
    cases kind with
    | serial => rfl
    | bare => rfl
  constructor
  · intro other hother
    rw [stage?_begin] at hother
    rw [kindOf_begin]
    by_cases hnew : other = r.runs.length
    · rw [if_pos hnew] at hother ⊢
      cases kind with
      | serial => rfl
      | bare => cases hother
    · rw [if_neg hnew] at hother ⊢
      exact h.waits other hother
  · intro other hother
    rw [hholder] at hother
    rcases h.holds other hother with ⟨hserial, s, hs, hactive⟩
    have hold : ¬other = r.runs.length := by
      rintro rfl
      simp [stage?] at hs
    rw [stage?_begin, kindOf_begin, if_neg hold, if_neg hold]
    exact ⟨hserial, s, hs, hactive⟩

theorem Held.starts (h : r.Held) (hlocked : r.Locked) {rest : List RunId}
    (hqueue : r.queue = id :: rest) :
    { r.setStage id .querying with holder := some id, queue := rest }.Held := by
  have hwaiting := hlocked.queued id (hqueue ▸ List.mem_cons_self)
  constructor
  · intro other hother
    have hstage : (r.setStage id .querying).stage? other = some .waiting := hother
    show (r.setStage id .querying).kindOf other = _
    rw [kindOf_setStage]
    by_cases hid : id = other
    · subst hid
      cases eq_of_stage?_setStage_self hstage
    · rw [stage?_setStage_ne r hid] at hstage
      exact h.waits other hstage
  · intro other hother
    cases hother
    show (r.setStage id .querying).kindOf id = _ ∧
      exists s, (r.setStage id .querying).stage? id = some s ∧ s.IsActive
    rw [kindOf_setStage]
    exact ⟨h.waits id hwaiting, .querying, stage?_setStage_self hwaiting _, True.intro⟩

theorem Turn.held (h : Turn r id event r' effects) (hlocked : r.Locked) (hheld : r.Held) :
    r'.Held := by
  cases h with
  | rests _ => exact hheld
  | enters kind _ => exact hheld.begin kind
  | starts _ _ hqueue => exact hheld.starts hlocked hqueue
  | fails e hs => exact hheld.conclude _
  | @goes _ current plan d _ _ attempts hopening _ _ =>
      rcases hopening.not_over with ⟨s, hs, _⟩
      have hs' : { r with directory := d }.stage? id = some s := hs
      have hconnecting := stage?_setStage_self hs' (.connecting current plan attempts)
      apply @Held.of_frame r _ id hheld
      · intro other
        exact kindOf_setStage { r with directory := d } id other _
      · intro other hne
        exact stage?_setStage_ne { r with directory := d } hne _
      · intro hwaiting
        cases hconnecting.symm.trans hwaiting
      · intro other hother
        exact hother
      · intro _
        exact ⟨_, hconnecting, True.intro⟩
  | @ends _ _ plan d _ attempts hopening =>
      have hd : { r with directory := d }.Held := ⟨hheld.waits, hheld.holds⟩
      rw [complete_eq]
      refine Held.conclude ?_ _
      cases plan with
      | keep => exact hd
      | replace next created kept => exact ⟨hd.waits, hd.holds⟩
  | leaves hs hgoing => exact hheld.abandon hs hgoing

theorem Aside.held (h : Aside r event r' effects) (hheld : r.Held) : r'.Held := by
  cases h with
  | registers address answer =>
      cases answer with
      | error _ => exact hheld
      | ok _ => exact ⟨hheld.waits, hheld.holds⟩
  | rests => exact hheld
  | closes peer => exact ⟨hheld.waits, hheld.holds⟩

theorem Held.step (h : r.Held) (hlocked : r.Locked) (event : Event) : (r.step event).1.Held := by
  cases howner : r.owner? event with
  | none => exact (aside_step howner).held h
  | some id => exact (turn_step howner).held hlocked h

theorem Held.run (h : r.Held) (hlocked : r.Locked) (history : List Event) :
    (r.after history).Held := by
  induction history generalizing r with
  | nil => exact h
  | cons event rest ih => exact ih (h.step hlocked event) (hlocked.step event)

theorem released_of_isOver (hlocked : r.Locked) (hheld : r.Held) (hs : r.stage? id = some s)
    (hover : s.isOver = true) : r.holder ≠ some id ∧ id ∉ r.queue := by
  constructor
  · intro hholder
    rcases (hheld.holds id hholder).right with ⟨t, ht, hactive⟩
    cases hs.symm.trans ht
    cases (isOver_of_isActive hactive).symm.trans hover
  · apply hlocked.notMem_queue hs
    rintro rfl
    cases hover

theorem Orderly.step (h : r.Orderly) (hlock : event.TakesLock) : (r.step event).1.Orderly := by
  apply (h.locked.step event).orderly
  intro id s hs
  by_cases hid : id < r.kinds.length
  · rw [kindOf_step hid event]
    cases hold : r.stage? id with
    | none => exact absurd ((stage?_eq_none_iff r id).mp hold) (Nat.not_le_of_lt hid)
    | some t => exact h.serial id t hold
  · rcases exists_begun_of_stage?_step hs hid with ⟨kind, rfl, _, hkind⟩
    rw [hkind]
    exact hlock

theorem Orderly.run (h : r.Orderly) {history : List Event}
    (hlock : forall event, event ∈ history -> event.TakesLock) : (r.after history).Orderly := by
  induction history generalizing r with
  | nil => exact h
  | cons event rest ih =>
      exact ih (h.step (hlock event List.mem_cons_self)) fun e he =>
        hlock e (List.mem_cons_of_mem event he)

/-!
## A run alone

While nobody has the lock or waits for it, a run that begins queries.
-/

@[simp] theorem queue_conclude (r : Reconciler) (id : RunId)
    (result : Except ClusterError RunOutcome) : (r.conclude id result).queue = r.queue := by
  unfold Reconciler.conclude
  cases r.kindOf id with
  | bare => rfl
  | serial => exact queue_releaseLock _ id

theorem mem_queue_of_abandon {other : RunId} (h : other ∈ (r.abandon id).queue) :
    other ∈ r.queue := by
  unfold Reconciler.abandon at h
  split at h
  · exact h
  · have hleft := (List.mem_filter.mp h).left
    rw [queue_releaseLock] at hleft
    exact hleft

/-- The lock is for this run only: nobody else has it or waits for it. -/
structure Reserved (r : Reconciler) (id : RunId) : Prop where
  holds : forall other, r.holder = some other -> other = id
  waits : forall other, other ∈ r.queue -> other = id

theorem Reserved.conclude (h : r.Reserved id) (result : Except ClusterError RunOutcome) :
    (r.conclude id result).Reserved id := by
  constructor
  · intro other hother
    rw [holder_conclude] at hother
    split at hother
    · cases hother
    · exact h.holds other hother
  · intro other hother
    rw [queue_conclude] at hother
    exact h.waits other hother

theorem Turn.reserved (h : Turn r id event r' effects) (hreserved : r.Reserved id) :
    r'.Reserved id := by
  cases h with
  | rests _ => exact hreserved
  | enters kind hid =>
      cases kind with
      | bare => exact ⟨hreserved.holds, hreserved.waits⟩
      | serial =>
          refine ⟨hreserved.holds, ?_⟩
          intro other hother
          rcases List.mem_append.mp hother with hold | hnew
          · exact hreserved.waits other hold
          · exact (List.mem_singleton.mp hnew).trans hid
  | starts rest _ hqueue =>
      refine ⟨fun other hother => (Option.some.inj hother).symm, ?_⟩
      intro other hother
      exact hreserved.waits other (hqueue ▸ List.mem_cons_of_mem id hother)
  | fails e _ => exact hreserved.conclude _
  | goes d _ _ _ => exact ⟨hreserved.holds, hreserved.waits⟩
  | @ends _ _ plan d _ attempts _ =>
      rw [complete_eq]
      refine Reserved.conclude ?_ _
      cases plan with
      | keep => exact ⟨hreserved.holds, hreserved.waits⟩
      | replace next created kept => exact ⟨hreserved.holds, hreserved.waits⟩
  | leaves hs hgoing =>
      constructor
      · intro other hother
        rw [holder_abandon r ((isOver_eq hs).trans hgoing)] at hother
        split at hother
        · cases hother
        · exact hreserved.holds other hother
      · intro other hother
        exact hreserved.waits other (mem_queue_of_abandon hother)

/-- All these events are steps of the run. -/
def Solo (r : Reconciler) (id : RunId) : List Event -> Prop
  | [] => True
  | event :: rest => r.owner? event = some id ∧ (r.step event).1.Solo id rest

theorem Solo.reserved {history : List Event} (h : r.Solo id history) (hreserved : r.Reserved id) :
    (r.after history).Reserved id := by
  induction history generalizing r with
  | nil => exact hreserved
  | cons event rest ih => exact ih h.right ((turn_step h.left).reserved hreserved)

theorem Solo.stage?_eq {history : List Event} {other : RunId} (h : r.Solo id history)
    (hne : id ≠ other) : (r.after history).stage? other = r.stage? other := by
  induction history generalizing r with
  | nil => rfl
  | cons event rest ih => exact (ih h.right).trans ((turn_step h.left).stage?_eq hne)

theorem Solo.selfAddress_eq {history : List Event} (h : r.Solo id history) :
    (r.after history).selfAddress = r.selfAddress := by
  induction history generalizing r with
  | nil => rfl
  | cons event rest ih => exact (ih h.right).trans (turn_step h.left).selfAddress_eq

theorem stage?_of_free (hfree : r.holder = none) (hempty : r.queue = []) (kind : RunKind) :
    (r.after [.begun kind, .granted]).stage? r.runs.length = some .querying := by
  show ((r.begin kind).1.grant).1.stage? r.runs.length = _
  cases kind with
  | bare => simp [begin, grant, hfree, hempty, stage?]
  | serial => simp [begin, grant, hfree, hempty, stage?, setStage]

theorem selfAddress_starts (r : Reconciler) (kind : RunKind) :
    (r.after [.begun kind, .granted]).selfAddress = r.selfAddress := by
  show ((r.begin kind).1.grant).1.selfAddress = _
  unfold grant
  split
  · cases kind with
    | bare => rfl
    | serial => rfl
  · cases kind with
    | bare => rfl
    | serial => rfl

end Reconciler
end ClusterNode
