import ClusterNode.Proofs.Reconciler.Progress

/-!
# The queue for the run lock

A run that waits is in the queue, and a run at its connects has an answer to wait for. So no run is
ever stuck: as long as the membership and the connectors answer, the lock comes to each run in its
turn, and each run comes to its end. Runs that are over have no part in that.
-/

namespace ClusterNode

/-- What the membership and the connectors answer to each run. -/
structure Answers where
  query : RunId -> Except ClusterError (List Address)
  connect : RunId -> Nat -> Except ClusterError Channel

namespace Answers

def Tells (a : Answers) (id : RunId) : Event -> Prop
  | .answered run answer => run = id ∧ answer = a.query id
  | .replied run attempt answer => run = id ∧ answer = a.connect id attempt
  | _ => False

/-- The lock is granted, or one of these runs is told an answer. -/
def Serves (a : Answers) (served : RunId -> Prop) (event : Event) : Prop :=
  event = .granted ∨ exists id, served id ∧ a.Tells id event

variable {a : Answers} {id : RunId} {event : Event} {served : RunId -> Prop}

theorem Serves.beginnings_eq_nil (h : a.Serves served event) : event.beginnings = [] := by
  rcases h with rfl | ⟨id, _, htells⟩
  · rfl
  · cases event with
    | begun kind => exact htells.elim
    | _ => rfl

end Answers

namespace Reconciler

variable {r r' : Reconciler} {id other : RunId} {s : RunStage} {event : Event}
  {effects : List Effect} {a : Answers} {more : List Event} {served : RunId -> Prop}

/-!
## Nobody waits in vain

A run leaves the queue only by a step of its own, and the run that gets the lock queries. Whatever a
run does, it has an answer to wait for if it is at its connects afterwards.
-/

structure Awaits (d : Directory) (attempts : List Attempt) : Prop where
  unanswered : unanswered attempts ≠ 0
  known : forall peer, peer ∈ attempts.map Attempt.peer -> peer < d.peers.length

structure Attended (r : Reconciler) : Prop where
  waits : forall id, r.stage? id = some .waiting -> id ∈ r.queue
  connects : forall id current plan attempts,
    r.stage? id = some (.connecting current plan attempts) -> Awaits r.directory attempts

theorem attended_create (internalAddress : Option Address) (check : HealthCheck) :
    (create internalAddress check).Attended := by
  constructor
  · intro id h
    cases h
  · intro id current plan attempts h
    cases h

theorem Turn.mem_queue (h : Turn r id event r' effects) (hne : id ≠ other)
    (hmem : other ∈ r.queue) : other ∈ r'.queue := by
  cases h with
  | rests _ => exact hmem
  | enters kind _ =>
      cases kind with
      | serial => exact List.mem_append_left _ hmem
      | bare => exact hmem
  | starts rest _ hqueue =>
      rw [hqueue] at hmem
      rcases List.mem_cons.mp hmem with hself | hrest
      · exact absurd hself.symm hne
      · exact hrest
  | fails e _ =>
      rw [queue_conclude]
      exact hmem
  | goes _ _ _ _ => exact hmem
  | @ends _ _ plan d _ attempts _ =>
      rw [complete_eq, queue_conclude]
      cases plan with
      | keep => exact hmem
      | replace next created kept => exact hmem
  | leaves hs hgoing =>
      unfold abandon
      rw [isOver_eq hs, hgoing]
      dsimp only
      rw [queue_releaseLock]
      exact List.mem_filter.mpr ⟨hmem, bne_iff_ne.mpr fun hself => hne hself.symm⟩

theorem Turn.mem_queue_of_waiting (h : Turn r id event r' effects) (hattended : r.Attended)
    (hs : r'.stage? id = some .waiting) : id ∈ r'.queue := by
  cases h with
  | rests _ => exact hattended.waits id hs
  | enters kind hid =>
      cases kind with
      | serial => exact List.mem_append_right _ (List.mem_singleton.mpr hid.symm)
      | bare =>
          rw [stage?_begin, if_pos hid.symm] at hs
          cases hs
  | starts _ _ _ => cases eq_of_stage?_setStage_self hs
  | fails e _ =>
      rw [stage?_conclude] at hs
      cases eq_of_stage?_setStage_self hs
  | goes _ _ _ _ => cases eq_of_stage?_setStage_self hs
  | ends d attempts _ =>
      rw [stage?_complete] at hs
      cases eq_of_stage?_setStage_self hs
  | leaves ht hgoing =>
      rw [stage?_abandon_self ht hgoing] at hs
      cases hs

theorem Aside.queue_eq (h : Aside r event r' effects) : r'.queue = r.queue := by
  cases h with
  | registers address answer =>
      cases answer with
      | error e => rfl
      | ok _ => rfl
  | rests => rfl
  | closes peer => rfl

theorem stage?_grant (hlocked : r.Locked) {rest : List RunId} (hfree : r.holder = none)
    (hqueue : r.queue = id :: rest) : (r.step .granted).1.stage? id = some .querying := by
  have hwaiting := hlocked.queued id (hqueue ▸ List.mem_cons_self)
  show r.grant.1.stage? id = _
  unfold grant
  rw [hfree, hqueue]
  exact stage?_setStage_self hwaiting _

theorem reply_cases (r : Reconciler) (id : RunId) (k : Nat) (answer : Except ClusterError Channel) :
    r.reply id k answer = (r, []) ∨
      exists current plan attempts peer p,
        r.stage? id = some (.connecting current plan attempts) ∧
          attempts[k]? = some ⟨peer, none⟩ ∧ r.directory.peer? peer = some p := by
  cases hs : r.stage? id with
  | none =>
      left
      unfold reply
      rw [hs]
  | some s =>
      unfold reply
      rw [hs]
      split
      · rename_i current plan attempts hconnecting
        cases hconnecting
        split
        · rename_i peer hattempt
          split
          · rename_i p hp
            exact Or.inr ⟨current, plan, attempts, peer, p, rfl, hattempt, hp⟩
          · exact Or.inl rfl
        · exact Or.inl rfl
      · exact Or.inl rfl

section Connects

variable {current : List PeerId} {plan : Plan} {attempts : List Attempt}

theorem Attended.connects_answered (h : r.Attended)
    {answer : Except ClusterError (List Address)}
    (hs : (r.step (.answered id answer)).1.stage? id = some (.connecting current plan attempts)) :
    Awaits (r.step (.answered id answer)).1.directory attempts := by
  by_cases hquerying : r.stage? id = some .querying
  · cases answer with
    | error e =>
        have hfailed : (r.step (.answered id (.error e))).1.stage? id = _ :=
          stage?_answer_error hquerying e
        cases hfailed.symm.trans hs
    | ok queried =>
        have hquerying' : { r with directory := r.staged queried }.stage? id =
            some .querying := hquerying
        rw [step_told hquerying] at hs ⊢
        rcases connect_cases hquerying' r.directory.published (r.decision queried)
          ((r.decision queried).list r.directory.published) with
          ⟨outcome, hend⟩ | ⟨attempts', hconnecting, hwaits, hknown⟩
        · cases hend.symm.trans hs
        · cases hconnecting.symm.trans hs
          exact ⟨hwaits, hknown⟩
  · have hstep : r.step (.answered id answer) = (r, []) :=
      answer_of_not_querying hquerying answer
    rw [hstep] at hs ⊢
    exact h.connects id current plan attempts hs

theorem Attended.connects_replied (h : r.Attended) (hrooted : r.Rooted) {k : Nat}
    {answer : Except ClusterError Channel}
    (hs : (r.step (.replied id k answer)).1.stage? id = some (.connecting current plan attempts)) :
    Awaits (r.step (.replied id k answer)).1.directory attempts := by
  have hgrows := (grows_after hrooted [.replied id k answer]).length_le
  rcases reply_cases r id k answer with
    hidle | ⟨current', plan', attempts', peer, p, hconnecting, hk, hp⟩
  · have hstep : r.step (.replied id k answer) = (r, []) := hidle
    rw [hstep] at hs ⊢
    exact h.connects id current plan attempts hs
  · rcases reply_of_unanswered hconnecting hk hp answer with
      ⟨outcome, hend⟩ | ⟨left, hgoes, hpeers, hwaits, _⟩
    · cases hend.symm.trans hs
    · cases hgoes.symm.trans hs
      refine ⟨hwaits, ?_⟩
      intro other hother
      rw [hpeers] at hother
      exact Nat.lt_of_lt_of_le ((h.connects id _ _ _ hconnecting).known other hother) hgrows

theorem Attended.connects_step (h : r.Attended) (hlocked : r.Locked) (hrooted : r.Rooted)
    (howner : r.owner? event = some id)
    (hs : (r.step event).1.stage? id = some (.connecting current plan attempts)) :
    Awaits (r.step event).1.directory attempts := by
  cases event with
  | registered address answer => cases howner
  | closed peer => cases howner
  | begun kind =>
      cases howner
      have hentry : (r.begin kind).1.stage? r.runs.length = _ := hs
      rw [stage?_begin, if_pos rfl] at hentry
      cases kind with
      | serial => cases hentry
      | bare => cases hentry
  | granted =>
      have hnext : r.nextInLine? = some id := howner
      unfold nextInLine? at hnext
      split at hnext
      · rename_i hfree
        rcases List.head?_eq_some_iff.mp hnext with ⟨rest, hqueue⟩
        cases (stage?_grant hlocked hfree hqueue).symm.trans hs
      · cases hnext
  | dropped run =>
      cases howner
      have hdropped : (r.abandon id).stage? id = _ := hs
      unfold abandon at hdropped
      split at hdropped
      · rename_i hover
        rw [isOver_eq hdropped] at hover
        cases hover
      · have hreleased : ((r.setStage id .abandoned).releaseLock id).stage? id = _ := hdropped
        rw [stage?_releaseLock] at hreleased
        cases eq_of_stage?_setStage_self hreleased
  | answered run answer =>
      cases howner
      exact h.connects_answered hs
  | replied run k answer =>
      cases howner
      exact h.connects_replied hrooted hs

end Connects

theorem Attended.step (h : r.Attended) (hlocked : r.Locked) (hrooted : r.Rooted)
    (event : Event) : (r.step event).1.Attended := by
  constructor
  · intro other hother
    cases howner : r.owner? event with
    | none =>
        have haside := aside_step howner
        rw [haside.stage?_eq] at hother
        rw [haside.queue_eq]
        exact h.waits other hother
    | some id =>
        have hturn := turn_step howner
        by_cases hid : id = other
        · subst hid
          exact hturn.mem_queue_of_waiting h hother
        · rw [hturn.stage?_eq hid] at hother
          exact hturn.mem_queue hid (h.waits other hother)
  · intro id current plan attempts hs
    by_cases howner : r.owner? event = some id
    · exact h.connects_step hlocked hrooted howner hs
    · rw [stage?_step_of_owner?_ne howner] at hs
      have hawaits := h.connects id current plan attempts hs
      have hgrows := (grows_after hrooted [event]).length_le
      exact ⟨hawaits.unanswered, fun peer hpeer =>
        Nat.lt_of_lt_of_le (hawaits.known peer hpeer) hgrows⟩

/-- What holds of every reconciler that a new one has become. -/
structure Regular (r : Reconciler) : Prop where
  locked : r.Locked
  held : r.Held
  rooted : r.Rooted
  attended : r.Attended

theorem regular_create (internalAddress : Option Address) (check : HealthCheck) :
    (create internalAddress check).Regular :=
  ⟨locked_create _ _, held_create _ _, rooted_create _ _, attended_create _ _⟩

theorem Regular.step (h : r.Regular) (event : Event) : (r.step event).1.Regular :=
  ⟨h.locked.step event, h.held.step h.locked event, h.rooted.step event,
    h.attended.step h.locked h.rooted event⟩

theorem Regular.run (h : r.Regular) (history : List Event) : (r.after history).Regular := by
  induction history generalizing r with
  | nil => exact h
  | cons event rest ih => exact ih (h.step event)

/-!
## The run that has the lock

An answer changes nothing about who waits. A run that has begun its query comes to its end by the
answers that it is told, and the lock is free when it is over.
-/

theorem solo_of_tells (h : forall event, event ∈ more -> a.Tells id event) (r : Reconciler) :
    r.Solo id more := by
  induction more generalizing r with
  | nil => exact True.intro
  | cons event rest ih =>
      have hevent := h event List.mem_cons_self
      refine ⟨?_, ih (fun e he => h e (List.mem_cons_of_mem event he)) _⟩
      cases event with
      | answered run answer => exact congrArg some hevent.left
      | replied run k answer => exact congrArg some hevent.left
      | _ => exact hevent.elim

theorem Turn.queue_eq_of_tells (h : Turn r id event r' effects) (htells : a.Tells id event) :
    r'.queue = r.queue := by
  cases h with
  | rests _ => rfl
  | enters kind _ => exact htells.elim
  | starts _ _ _ => exact htells.elim
  | fails e _ => exact queue_conclude r id _
  | goes _ _ _ _ => rfl
  | @ends _ _ plan d _ attempts _ =>
      rw [complete_eq, queue_conclude]
      cases plan with
      | keep => rfl
      | replace next created kept => rfl
  | leaves _ _ => exact htells.elim

theorem queue_after_of_tells (h : forall event, event ∈ more -> a.Tells id event) :
    (r.after more).queue = r.queue := by
  induction more generalizing r with
  | nil => rfl
  | cons event rest ih =>
      have howner := (solo_of_tells h r).left
      have hstep := (turn_step howner).queue_eq_of_tells (h event List.mem_cons_self)
      exact (ih fun e he => h e (List.mem_cons_of_mem event he)).trans hstep

theorem Solo.holder_eq_none (h : r.Solo id more) (hregular : r.Regular)
    (hholder : r.holder = some id) (hs : (r.after more).stage? id = some s)
    (hover : s.isOver = true) : (r.after more).holder = none := by
  cases hother : (r.after more).holder with
  | none => rfl
  | some other =>
      rcases (hregular.run more).held.holds other hother with ⟨hserial, t, ht, hactive⟩
      have hne : id ≠ other := by
        rintro rfl
        cases hs.symm.trans ht
        cases hover.symm.trans (isOver_of_isActive hactive)
      rw [h.stage?_eq hne] at ht
      rw [kindOf_after (lt_kinds_of_stage? ht)] at hserial
      have hself := hregular.locked.single other t ht hactive hserial
      exact absurd (Option.some.inj (hholder.symm.trans hself)) hne

theorem exists_end_of_isActive (a : Answers) (hregular : r.Regular)
    (hs : r.stage? id = some s) (hactive : s.IsActive) :
    exists more result, (forall event, event ∈ more -> a.Tells id event) ∧
      (r.after more).stage? id = some (.finished result) := by
  have hreplies : forall later : List Event,
      (forall event, event ∈ later -> exists k, event = .replied id k (a.connect id k)) ->
        forall event, event ∈ later -> a.Tells id event := by
    intro later hlater event hevent
    rcases hlater event hevent with ⟨k, rfl⟩
    exact ⟨rfl, rfl⟩
  cases s with
  | waiting => exact hactive.elim
  | querying =>
      rcases exists_end hregular.rooted hs (a.query id) (a.connect id) with
        ⟨later, result, hlater, hend⟩
      refine ⟨.answered id (a.query id) :: later, result, ?_, hend⟩
      intro event hevent
      rcases List.mem_cons.mp hevent with rfl | hevent
      · exact ⟨rfl, rfl⟩
      · exact hreplies later hlater event hevent
  | connecting current plan attempts =>
      have hawaits := hregular.attended.connects id current plan attempts hs
      rcases exists_end_of_connecting (a.connect id) hregular.rooted hs hawaits.known
        (Nat.succ_pred hawaits.unanswered).symm with ⟨later, hlater, outcome, hend⟩
      exact ⟨later, .ok outcome, hreplies later hlater, hend⟩
  | finished result => exact hactive.elim
  | abandoned => exact hactive.elim

/-!
## The runs that wait for it

Answers alone free the lock, and nobody loses his place in the queue.
-/

/-- All runs that are not over are among these. -/
def Covers (r : Reconciler) (served : RunId -> Prop) : Prop :=
  forall id s, r.stage? id = some s -> s.isOver = false -> served id

theorem Covers.step (h : r.Covers served) (hlocked : r.Locked)
    (hevent : event.beginnings = []) : (r.step event).1.Covers served := by
  intro id s hs hgoing
  have hkinds := kinds_step r event
  rw [hevent, List.append_nil] at hkinds
  cases hold : r.stage? id with
  | none =>
      have hlt := lt_kinds_of_stage? hs
      rw [hkinds] at hlt
      exact absurd hlt (Nat.not_lt_of_le ((stage?_eq_none_iff r id).mp hold))
  | some t =>
      apply h id t hold
      by_contra hover
      have hsame := stage?_step_of_isOver hlocked hold (Bool.not_eq_false _ ▸ hover) event
      rw [hsame] at hs
      cases hs
      exact hover hgoing

theorem Covers.run (h : r.Covers served) (hlocked : r.Locked)
    (hmore : forall event, event ∈ more -> a.Serves served event) :
    (r.after more).Covers served := by
  induction more generalizing r with
  | nil => exact h
  | cons event rest ih =>
      have hstep := h.step hlocked (hmore event List.mem_cons_self).beginnings_eq_nil
      exact ih hstep (hlocked.step event) fun e he => hmore e (List.mem_cons_of_mem event he)

/-- Answers alone free the lock, and nobody loses his place in the queue. -/
theorem exists_free (a : Answers) (hregular : r.Regular) (hcovers : r.Covers served) :
    exists more, (forall event, event ∈ more -> a.Serves served event) ∧
      (r.after more).holder = none ∧ (r.after more).queue = r.queue := by
  cases hholder : r.holder with
  | none => exact ⟨[], by simp, hholder, rfl⟩
  | some id =>
      rcases (hregular.held.holds id hholder).right with ⟨s, hs, hactive⟩
      rcases exists_end_of_isActive a hregular hs hactive with ⟨more, result, htells, hend⟩
      have hserved := hcovers id s hs (isOver_of_isActive hactive)
      refine ⟨more, fun event he => Or.inr ⟨id, hserved, htells event he⟩, ?_,
        queue_after_of_tells htells⟩
      exact (solo_of_tells htells r).holder_eq_none hregular hholder hend rfl

/-- The lock comes to each run of the queue in its turn. -/
theorem exists_turn (a : Answers) {n : Nat} (hregular : r.Regular) (hcovers : r.Covers served)
    (hn : r.queue[n]? = some id) :
    exists more, (forall event, event ∈ more -> a.Serves served event) ∧
      (r.after more).stage? id = some .querying := by
  induction n generalizing r with
  | zero =>
      rcases exists_free a hregular hcovers with ⟨more, hmore, hfree, hqueue⟩
      rcases List.head?_eq_some_iff.mp (List.head?_eq_getElem? ▸ hn) with ⟨rest, hcons⟩
      refine ⟨more ++ [.granted], ?_, ?_⟩
      · intro event hevent
        rcases List.mem_append.mp hevent with hevent | hgranted
        · exact hmore event hevent
        · exact Or.inl (List.mem_singleton.mp hgranted)
      · rw [after_concat]
        exact stage?_grant (hregular.locked.run more) hfree (hqueue.trans hcons)
  | succ n ih =>
      rcases exists_free a hregular hcovers with ⟨more, hmore, hfree, hqueue⟩
      cases hcons : r.queue with
      | nil =>
          rw [hcons] at hn
          cases hn
      | cons first rest =>
          -- The run before this one gets the lock, and the queue is one shorter.
          have hrest : (((r.after more).step .granted).1.queue)[n]? = some id := by
            show ((r.after more).grant.1.queue)[n]? = _
            unfold grant
            rw [hfree, hqueue, hcons]
            rw [hcons] at hn
            exact hn
          have hcovers' := hcovers.run hregular.locked hmore
          have hregular' := hregular.run more
          rcases ih (hregular'.step .granted) (hcovers'.step hregular'.locked rfl) hrest with
            ⟨later, hlater, hs⟩
          refine ⟨more ++ .granted :: later, ?_, ?_⟩
          · intro event hevent
            rcases List.mem_append.mp hevent with hevent | hevent
            · exact hmore event hevent
            · rcases List.mem_cons.mp hevent with hgranted | hevent
              · exact Or.inl hgranted
              · exact hlater event hevent
          · rw [after_append]
            exact hs

/-- No run is stuck: with answers for the runs that are not over, each of them comes to its end. -/
theorem exists_end_of_going (a : Answers) (hregular : r.Regular) (hcovers : r.Covers served)
    (hs : r.stage? id = some s) (hgoing : s.isOver = false) :
    exists more result, (forall event, event ∈ more -> a.Serves served event) ∧
      (r.after more).stage? id = some (.finished result) := by
  have hactive : forall {r' : Reconciler} {t : RunStage}, r'.Regular -> r'.Covers served ->
      r'.stage? id = some t -> t.IsActive ->
      exists more result, (forall event, event ∈ more -> a.Serves served event) ∧
        (r'.after more).stage? id = some (.finished result) := by
    intro r' t hregular' hcovers' ht htactive
    rcases exists_end_of_isActive a hregular' ht htactive with ⟨more, result, htells, hend⟩
    have hserved := hcovers' id t ht (isOver_of_isActive htactive)
    exact ⟨more, result, fun event he => Or.inr ⟨id, hserved, htells event he⟩, hend⟩
  cases s with
  | waiting =>
      rcases List.getElem?_of_mem (hregular.attended.waits id hs) with ⟨n, hn⟩
      rcases exists_turn a hregular hcovers hn with ⟨more, hmore, hquerying⟩
      rcases hactive (hregular.run more) (hcovers.run hregular.locked hmore) hquerying
        True.intro with ⟨later, result, hlater, hend⟩
      refine ⟨more ++ later, result, ?_, ?_⟩
      · intro event hevent
        rcases List.mem_append.mp hevent with hevent | hevent
        · exact hmore event hevent
        · exact hlater event hevent
      · rw [after_append]
        exact hend
  | querying => exact hactive hregular hcovers hs True.intro
  | connecting current plan attempts => exact hactive hregular hcovers hs True.intro
  | finished result => cases hgoing
  | abandoned => cases hgoing

end Reconciler
end ClusterNode
