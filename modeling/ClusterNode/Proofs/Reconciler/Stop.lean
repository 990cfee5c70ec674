import ClusterNode.Proofs.Reconciler.Queue
import ClusterNode.Proofs.Reconciler.Share
import ClusterNode.Reconciler.Task

/-!
# A recurring task that is stopped

A task is awake while it is being polled, and time passes only while it sleeps. It may be told to
stop at any moment, and whenever a stop and something else are ready together, either may come
first. All the same no more than one run begins after the signal, and once the task has ended, the
runs that it has begun are over: they do nothing more, the lock is not theirs, and the published
list is one that a run has published at its end.
-/

namespace ClusterNode

/-- A recurring task at work. A call to stop and a dropped handle are the same signal, which stays
until the task ends; one that comes while the task is awake may go unseen until it wakes again. The
runs that the task has begun before the signal are the early ones, those after it the late ones. -/
structure Ticker where
  task : RecurringTask
  reconciler : Reconciler
  now : Time
  awake : Bool
  signalled : Bool
  unseen : Bool
  early : List RunId
  late : List RunId

def Event.isDrop : Event -> Bool
  | .dropped _ => true
  | _ => false

namespace Ticker

inductive Act where
  | waits (d : Time)
  | happens (event : Event)
  | signals
  | wakes
  | ticks
  | works (event : Event)
  | settles
  | stops
  | sleeps

def start (r : Reconciler) (interval : Time) (now : Time) : Ticker :=
  { task := .start interval now, reconciler := r, now, awake := false, signalled := false,
    unseen := false, early := [], late := [] }

def begun (t : Ticker) : List RunId := t.early ++ t.late

def owns (t : Ticker) (event : Event) : Bool :=
  match t.task.stage with
  | .running run => t.reconciler.owner? event == some run
  | _ => false

def isReady (t : Ticker) : Bool :=
  match t.task.stage with
  | .idle => decide (t.task.pace.due ≤ t.now)
  | .running run => t.reconciler.isOver run
  | .ended => false

def take (t : Ticker) (event : Event) : Ticker × List Event :=
  ({ t with reconciler := (t.reconciler.step event).1 }, [event])

/-- A run begins that is due. Once it has begun, the task looks for the signal before it sleeps. -/
def tick (t : Ticker) : Ticker × List Event :=
  let (task, reconciler, _) := t.task.tick t.now t.reconciler
  let run := t.reconciler.runs.length
  if t.signalled then
    ({ t with task, reconciler, unseen := false, late := t.late ++ [run] }, [.begun .serial])
  else
    ({ t with task, reconciler, unseen := false, early := t.early ++ [run] }, [.begun .serial])

def stop (t : Ticker) : Ticker × List Event :=
  let (task, reconciler) := t.task.stop t.reconciler
  let events := match t.task.stage with
    | .running run => [Event.dropped run]
    | _ => []
  ({ t with task, reconciler, awake := false }, events)

def provided (t : Ticker) (possible : Prop) [Decidable possible] (next : Ticker × List Event) :
    Ticker × List Event :=
  if possible then next else (t, [])

def step (t : Ticker) : Act -> Ticker × List Event
  | .waits d => t.provided (t.awake = false) ({ t with now := t.now + d }, [])
  | .happens event => t.provided (t.owns event = false) (t.take event)
  | .signals =>
      t.provided (t.signalled = false) ({ t with signalled := true, unseen := t.awake }, [])
  | .wakes => t.provided (t.task.stage ≠ .ended) ({ t with awake := true, unseen := false }, [])
  | .ticks =>
      t.provided (t.awake = true ∧ t.task.stage = .idle ∧ t.task.pace.due ≤ t.now) t.tick
  | .works event =>
      t.provided (t.awake = true ∧ t.owns event = true ∧ event.isDrop = false) (t.take event)
  | .settles =>
      t.provided (t.awake = true) ({ t with task := t.task.settle t.reconciler }, [])
  | .stops =>
      t.provided (t.awake = true ∧ t.signalled = true ∧ t.task.stage ≠ .ended) t.stop
  | .sleeps =>
      t.provided ((t.signalled = true -> t.unseen = true) ∧ t.isReady = false)
        ({ t with awake := false }, [])

def after (t : Ticker) : List Act -> Ticker
  | [] => t
  | act :: rest => after (t.step act).1 rest

def events (t : Ticker) : List Act -> List Event
  | [] => []
  | act :: rest => (t.step act).2 ++ events (t.step act).1 rest

variable {t t' : Ticker} {events : List Event}

/-!
## What one act does

All that an act does to the reconciler is in its events. Once there is a signal the task can end,
and a task that has ended begins no run.
-/

/-- What may become of a task in one act, and what happens to the reconciler. -/
inductive Change (t : Ticker) : Ticker -> List Event -> Prop where
  | rests : Change t t []
  | waits (d : Time) : t.awake = false -> Change t { t with now := t.now + d } []
  | happens (event : Event) : t.owns event = false ->
      Change t { t with reconciler := (t.reconciler.step event).1 } [event]
  | signals : t.signalled = false -> Change t { t with signalled := true, unseen := t.awake } []
  | wakes : t.task.stage ≠ .ended -> Change t { t with awake := true, unseen := false } []
  | ticks (early late : List RunId) : t.awake = true -> t.task.stage = .idle ->
      t.task.pace.due ≤ t.now ->
      (t.signalled = true ∧ early = t.early ∧ late = t.late ++ [t.reconciler.runs.length] ∨
        t.signalled = false ∧ early = t.early ++ [t.reconciler.runs.length] ∧ late = t.late) ->
      Change t
        { t with
          task := { pace := t.task.pace.advance t.now, stage := .running t.reconciler.runs.length }
          reconciler := (t.reconciler.begin .serial).1
          unseen := false
          early, late }
        [.begun .serial]
  | works (event : Event) {run : RunId} : t.awake = true -> t.task.stage = .running run ->
      t.reconciler.owner? event = some run -> event.isDrop = false ->
      Change t { t with reconciler := (t.reconciler.step event).1 } [event]
  | settles {run : RunId} : t.awake = true -> t.task.stage = .running run ->
      t.reconciler.isOver run = true ->
      Change t { t with task := { t.task with stage := .idle } } []
  | cuts {run : RunId} : t.awake = true -> t.signalled = true -> t.task.stage = .running run ->
      Change t
        { t with
          task := { t.task with stage := .ended }
          reconciler := t.reconciler.abandon run
          awake := false }
        [.dropped run]
  | ends : t.awake = true -> t.signalled = true -> t.task.stage = .idle ->
      Change t { t with task := { t.task with stage := .ended }, awake := false } []
  | sleeps : (t.signalled = true -> t.unseen = true) -> t.isReady = false ->
      Change t { t with awake := false } []

theorem owns_eq_true_iff (t : Ticker) (event : Event) : t.owns event = true <->
    exists run, t.task.stage = .running run ∧ t.reconciler.owner? event = some run := by
  unfold owns
  cases t.task.stage with
  | idle => simp
  | running run => simp
  | ended => simp

theorem tick_of_due {task : RecurringTask} {now : Time} (hidle : task.stage = .idle)
    (hdue : task.pace.due ≤ now) (r : Reconciler) :
    task.tick now r = ({ pace := task.pace.advance now, stage := .running r.runs.length },
      r.begin .serial) := by
  unfold RecurringTask.tick
  rw [hidle]
  exact if_pos hdue

theorem change_tick (hawake : t.awake = true) (hidle : t.task.stage = .idle)
    (hdue : t.task.pace.due ≤ t.now) : Change t t.tick.1 t.tick.2 := by
  unfold tick
  rw [tick_of_due hidle hdue]
  dsimp only
  split
  · rename_i hsignalled
    exact Change.ticks _ _ hawake hidle hdue (Or.inl ⟨hsignalled, rfl, rfl⟩)
  · rename_i hquiet
    exact Change.ticks _ _ hawake hidle hdue (Or.inr ⟨Bool.not_eq_true _ ▸ hquiet, rfl, rfl⟩)

theorem change_settle (hawake : t.awake = true) :
    Change t { t with task := t.task.settle t.reconciler } [] := by
  unfold RecurringTask.settle
  split
  · rename_i run hrunning
    split
    · rename_i hover
      exact Change.settles hawake hrunning hover
    · exact Change.rests
  · exact Change.rests

theorem change_stop (hawake : t.awake = true) (hsignalled : t.signalled = true)
    (hgoing : t.task.stage ≠ .ended) : Change t t.stop.1 t.stop.2 := by
  unfold stop RecurringTask.stop
  cases hstage : t.task.stage with
  | idle => exact Change.ends hawake hsignalled hstage
  | running run => exact Change.cuts hawake hsignalled hstage
  | ended => exact absurd hstage hgoing

theorem change_provided {possible : Prop} [Decidable possible] {next : Ticker × List Event}
    (h : possible -> Change t next.1 next.2) :
    Change t (t.provided possible next).1 (t.provided possible next).2 := by
  unfold provided
  split
  · rename_i hpossible
    exact h hpossible
  · exact Change.rests

theorem change_step (t : Ticker) (act : Act) : Change t (t.step act).1 (t.step act).2 := by
  cases act with
  | waits d => exact change_provided fun hasleep => Change.waits d hasleep
  | happens event => exact change_provided fun hother => Change.happens event hother
  | signals => exact change_provided fun hnone => Change.signals hnone
  | wakes => exact change_provided fun hgoing => Change.wakes hgoing
  | ticks =>
      apply change_provided
      intro hdue
      exact change_tick hdue.left hdue.right.left hdue.right.right
  | works event =>
      apply change_provided
      intro hworks
      rcases hworks with ⟨hawake, howns, hdrop⟩
      rcases (owns_eq_true_iff t event).mp howns with ⟨run, hrunning, howner⟩
      exact Change.works event hawake hrunning howner hdrop
  | settles => exact change_provided fun hawake => change_settle hawake
  | stops =>
      apply change_provided
      intro hstops
      exact change_stop hstops.left hstops.right.left hstops.right.right
  | sleeps => exact change_provided fun hnothing => Change.sleeps hnothing.left hnothing.right

theorem Change.reconciler_eq (h : Change t t' events) :
    t'.reconciler = t.reconciler.after events := by
  cases h with
  | _ => rfl

theorem reconciler_after (t : Ticker) (acts : List Act) :
    (t.after acts).reconciler = t.reconciler.after (t.events acts) := by
  induction acts generalizing t with
  | nil => rfl
  | cons act rest ih =>
      have hstep := (change_step t act).reconciler_eq
      show ((t.step act).1.after rest).reconciler =
        t.reconciler.after ((t.step act).2 ++ (t.step act).1.events rest)
      rw [ih, Reconciler.after_append, hstep]

theorem Change.of_ended (h : Change t t' events) (hended : t.task.stage = .ended) :
    t'.task.stage = .ended ∧ t'.begun = t.begun := by
  cases h with
  | ticks early late _ hidle _ _ => cases hidle.symm.trans hended
  | settles _ hrunning _ => cases hrunning.symm.trans hended
  | cuts _ _ hrunning => cases hrunning.symm.trans hended
  | ends _ _ hidle => cases hidle.symm.trans hended
  | _ => exact ⟨hended, rfl⟩

theorem after_of_ended (hended : t.task.stage = .ended) (more : List Act) :
    (t.after more).task.stage = .ended ∧ (t.after more).begun = t.begun := by
  induction more generalizing t with
  | nil => exact ⟨hended, rfl⟩
  | cons act rest ih =>
      rcases (change_step t act).of_ended hended with ⟨hstage, hbegun⟩
      rcases ih hstage with ⟨hstage', hbegun'⟩
      exact ⟨hstage', hbegun'.trans hbegun⟩

theorem ended_of_signalled (h : t.signalled = true) :
    (t.after [.wakes, .stops]).task.stage = .ended := by
  by_cases hended : t.task.stage = .ended
  · exact (after_of_ended hended [.wakes, .stops]).left
  · have hwakes : (t.step .wakes).1 = { t with awake := true, unseen := false } :=
      congrArg Prod.fst (if_pos hended)
    have hstops : ({ t with awake := true, unseen := false }.step .stops).1 =
        { t with awake := true, unseen := false }.stop.1 :=
      congrArg Prod.fst (if_pos ⟨rfl, h, hended⟩)
    show ((t.step .wakes).1.step .stops).1.task.stage = .ended
    rw [hwakes, hstops]
    rfl

/-!
## At most one more run

No run is due at the moment at which one has begun. So the first late run begins when one is due,
and then none is due until time passes.
-/

theorem lt_due_advance {p : Pace} {now : Time} (hperiod : Pace.shortest ≤ p.period)
    (hdue : p.due ≤ now) : now < (p.advance now).due := by
  have htolerance : Pace.tolerance < Pace.shortest := by decide
  have hlater : forall now due period tolerance : Nat, tolerance < period -> due ≤ now ->
      now < (if due + tolerance < now then now else due) + period := by
    intro now due period tolerance hperiod hdue
    split
    · omega
    · omega
  exact hlater now p.due p.period Pace.tolerance (Nat.lt_of_lt_of_le htolerance hperiod) hdue

/-- A late run has begun, and before another one is due the task ends. -/
structure Closing (t : Ticker) : Prop where
  one : exists run, t.late = [run]
  signalled : t.signalled = true
  seen : t.unseen = false
  soon : t.task.stage = .ended ∨ t.awake = true ∧ t.now < t.task.pace.due

structure Timely (t : Ticker) : Prop where
  period : Pace.shortest ≤ t.task.pace.period
  late : t.late = [] ∨ t.Closing

theorem timely_start (r : Reconciler) (interval now : Time) : (start r interval now).Timely :=
  ⟨Nat.le_max_left _ _, Or.inl rfl⟩

theorem Timely.length_late (h : t.Timely) : t.late.length ≤ 1 := by
  rcases h.late with hnone | hclosing
  · simp [hnone]
  · rcases hclosing.one with ⟨run, hone⟩
    simp [hone]

theorem Change.period_eq (h : Change t t' events) :
    t'.task.pace.period = t.task.pace.period := by
  cases h with
  | _ => rfl

theorem Change.closing (h : Change t t' events) (hclosing : t.Closing) : t'.Closing := by
  rcases hclosing with ⟨hone, hsignalled, hseen, hsoon⟩
  cases h with
  | rests => exact ⟨hone, hsignalled, hseen, hsoon⟩
  | waits d hasleep =>
      rcases hsoon with hended | ⟨hawake, _⟩
      · exact ⟨hone, hsignalled, hseen, Or.inl hended⟩
      · cases hasleep.symm.trans hawake
  | happens event _ => exact ⟨hone, hsignalled, hseen, hsoon⟩
  | signals hquiet => cases hquiet.symm.trans hsignalled
  | wakes hgoing =>
      rcases hsoon with hended | ⟨_, hdue⟩
      · exact absurd hended hgoing
      · exact ⟨hone, hsignalled, rfl, Or.inr ⟨rfl, hdue⟩⟩
  | ticks early late _ hidle hdue _ =>
      rcases hsoon with hended | ⟨_, hlater⟩
      · cases hidle.symm.trans hended
      · exact absurd hdue (Nat.not_le_of_lt hlater)
  | works event _ _ _ _ => exact ⟨hone, hsignalled, hseen, hsoon⟩
  | settles _ hrunning _ =>
      rcases hsoon with hended | hsoon
      · cases hrunning.symm.trans hended
      · exact ⟨hone, hsignalled, hseen, Or.inr hsoon⟩
  | cuts _ _ _ => exact ⟨hone, hsignalled, hseen, Or.inl rfl⟩
  | ends _ _ _ => exact ⟨hone, hsignalled, hseen, Or.inl rfl⟩
  | sleeps hunseen _ => cases hseen.symm.trans (hunseen hsignalled)

/-- The first late run begins when one is due, and then none is due until time passes. -/
theorem Change.late_cases (h : Change t t' events) (hperiod : Pace.shortest ≤ t.task.pace.period)
    (hnone : t.late = []) : t'.late = [] ∨ t'.Closing := by
  cases h with
  | ticks early late hawake _ hdue hcases =>
      rcases hcases with ⟨hsignalled, _, hlate⟩ | ⟨_, _, hlate⟩
      · right
        have hone : late = [t.reconciler.runs.length] := by
          rw [hlate, hnone]
          rfl
        exact ⟨⟨_, hone⟩, hsignalled, rfl, Or.inr ⟨hawake, lt_due_advance hperiod hdue⟩⟩
      · exact Or.inl (hlate.trans hnone)
  | _ => exact Or.inl hnone

theorem Change.timely (h : Change t t' events) (htimely : t.Timely) : t'.Timely := by
  refine ⟨h.period_eq ▸ htimely.period, ?_⟩
  rcases htimely.late with hnone | hclosing
  · exact h.late_cases htimely.period hnone
  · exact Or.inr (h.closing hclosing)

theorem Timely.after (h : t.Timely) (acts : List Act) : (t.after acts).Timely := by
  induction acts generalizing t with
  | nil => exact h
  | cons act rest ih => exact ih ((change_step t act).timely h)

/-!
## The runs of the task

The run that is dropped is over then, and all others have been over before.
-/

/-- The runs that the task has begun are over, but for the one that it waits for. -/
structure Tracked (t : Ticker) : Prop where
  current : forall run, t.task.stage = .running run ->
    exists s, t.reconciler.stage? run = some s
  past : forall run, run ∈ t.begun -> t.task.stage ≠ .running run ->
    exists s, t.reconciler.stage? run = some s ∧ s.isOver = true

theorem tracked_start (r : Reconciler) (interval now : Time) : (start r interval now).Tracked := by
  constructor
  · intro run h
    cases h
  · intro run h
    cases h

theorem Tracked.take (h : t.Tracked) (hlocked : t.reconciler.Locked) (event : Event) :
    { t with reconciler := (t.reconciler.step event).1 }.Tracked := by
  constructor
  · intro run hrunning
    rcases h.current run hrunning with ⟨s, hs⟩
    exact Reconciler.exists_stage?_step hs event
  · intro run hrun hother
    rcases h.past run hrun hother with ⟨s, hs, hover⟩
    exact ⟨s, Reconciler.stage?_step_of_isOver hlocked hs hover event, hover⟩

theorem Tracked.ticks (h : t.Tracked) (hidle : t.task.stage = .idle) {early late : List RunId}
    (hbegun : forall run, run ∈ early ++ late ->
      run ∈ t.begun ∨ run = t.reconciler.runs.length) :
    { t with
      task := { pace := t.task.pace.advance t.now, stage := .running t.reconciler.runs.length }
      reconciler := (t.reconciler.begin .serial).1
      unseen := false
      early, late }.Tracked := by
  constructor
  · intro run hrunning
    cases hrunning
    exact ⟨_, (Reconciler.stage?_begin _ _ _).trans (if_pos rfl)⟩
  · intro run hrun hother
    have hnew : ¬run = t.reconciler.runs.length := by
      rintro rfl
      exact hother rfl
    rcases hbegun run hrun with hold | hself
    · rcases h.past run hold (by simp [hidle]) with ⟨s, hs, hover⟩
      exact ⟨s, ((Reconciler.stage?_begin _ _ _).trans (if_neg hnew)).trans hs, hover⟩
    · exact absurd hself hnew

theorem Tracked.cuts (h : t.Tracked) (hlocked : t.reconciler.Locked) {cut : RunId}
    (hrunning : t.task.stage = .running cut) :
    { t with
      task := { t.task with stage := .ended }
      reconciler := t.reconciler.abandon cut
      awake := false }.Tracked := by
  constructor
  · intro run hended
    cases hended
  · intro run hrun _
    have hstay : forall s, t.reconciler.stage? run = some s -> s.isOver = true ->
        (t.reconciler.abandon cut).stage? run = some s := fun s hs hover =>
      Reconciler.stage?_step_of_isOver hlocked hs hover (.dropped cut)
    by_cases hcut : run = cut
    · subst hcut
      rcases h.current run hrunning with ⟨s, hs⟩
      cases hover : s.isOver with
      | true => exact ⟨s, hstay s hs hover, hover⟩
      | false => exact ⟨.abandoned, Reconciler.stage?_abandon_self hs hover, rfl⟩
    · have hother : t.task.stage ≠ .running run := by
        rw [hrunning]
        exact fun heq => hcut (TaskStage.running.inj heq).symm
      rcases h.past run hrun hother with ⟨s, hs, hover⟩
      exact ⟨s, hstay s hs hover, hover⟩

theorem Change.tracked (h : Change t t' events) (htracked : t.Tracked)
    (hlocked : t.reconciler.Locked) : t'.Tracked := by
  have hidle : t.task.stage = .idle -> forall run, run ∈ t.begun ->
      exists s, t.reconciler.stage? run = some s ∧ s.isOver = true := by
    intro hidle run hrun
    exact htracked.past run hrun (by simp [hidle])
  cases h with
  | rests => exact htracked
  | waits d _ => exact ⟨htracked.current, htracked.past⟩
  | happens event _ => exact htracked.take hlocked event
  | signals _ => exact ⟨htracked.current, htracked.past⟩
  | wakes _ => exact ⟨htracked.current, htracked.past⟩
  | ticks early late _ hstage _ hcases =>
      apply htracked.ticks hstage
      intro run hrun
      rcases hcases with ⟨_, rfl, rfl⟩ | ⟨_, rfl, rfl⟩
      · rw [← List.append_assoc] at hrun
        rcases List.mem_append.mp hrun with hold | hnew
        · exact Or.inl hold
        · exact Or.inr (List.mem_singleton.mp hnew)
      · rcases List.mem_append.mp hrun with hearly | hlate
        · rcases List.mem_append.mp hearly with hold | hnew
          · exact Or.inl (List.mem_append_left _ hold)
          · exact Or.inr (List.mem_singleton.mp hnew)
        · exact Or.inl (List.mem_append_right _ hlate)
  | works event _ _ _ _ => exact htracked.take hlocked event
  | @settles waited _ hrunning hover =>
      constructor
      · intro run hstage
        cases hstage
      · intro run hrun _
        by_cases hwaited : run = waited
        · subst hwaited
          rcases htracked.current run hrunning with ⟨s, hs⟩
          exact ⟨s, hs, (Reconciler.isOver_eq hs).symm.trans hover⟩
        · refine htracked.past run hrun ?_
          rw [hrunning]
          exact fun heq => hwaited (TaskStage.running.inj heq).symm
  | cuts _ _ hrunning => exact htracked.cuts hlocked hrunning
  | ends _ _ hstage =>
      constructor
      · intro run hended
        cases hended
      · intro run hrun _
        exact hidle hstage run hrun
  | sleeps _ _ => exact ⟨htracked.current, htracked.past⟩

theorem Tracked.after (h : t.Tracked) (hlocked : t.reconciler.Locked) (acts : List Act) :
    (t.after acts).Tracked := by
  induction acts generalizing t with
  | nil => exact h
  | cons act rest ih =>
      have hchange := change_step t act
      apply ih (hchange.tracked h hlocked)
      rw [hchange.reconciler_eq]
      exact hlocked.run _

/-!
## The end
-/

/-- How things are once the task has ended, after a history that began with this reconciler. Its
runs do nothing more, whatever others do. The list is the last one that a run has published at its
end, and the run that was cut has published nothing, closed nobody and reported nothing. None of its
runs has the lock or waits for it, so every run of others comes to its end as soon as it gets its
answers. -/
structure Settled (r : Reconciler) (history : List Event) (t : Ticker) : Prop where
  reconciler : t.reconciler = r.after history
  silent : forall more, (t.after more).task.stage = .ended ∧ (t.after more).begun = t.begun ∧
    forall run, run ∈ t.begun -> t.reconciler.share run (t.events more) = []
  list : (Reconciler.Quiet (r.trace history) ∧
      t.reconciler.directory.published = r.directory.published) ∨
    exists run, Reconciler.LastPublished r history run t.reconciler.directory.published
  cut : forall run, run ∈ t.begun -> t.reconciler.stage? run = some .abandoned ->
    forall e, e ∈ r.share run history -> e.IsTentative
  released : forall run, run ∈ t.begun ->
    t.reconciler.holder ≠ some run ∧ run ∉ t.reconciler.queue
  free : (forall run, run ∉ t.begun -> t.reconciler.isOver run = true) ->
    t.reconciler.holder = none ∧ t.reconciler.queue = []
  proceeds : forall (answers : Answers) (run : RunId) (s : RunStage),
    t.reconciler.stage? run = some s -> s.isOver = false -> run ∉ t.begun ∧
      exists more result,
        (forall event, event ∈ more -> answers.Serves (fun other => other ∉ t.begun) event) ∧
          (t.reconciler.after more).stage? run = some (.finished result)

theorem Tracked.exists_over (h : t.Tracked) (hended : t.task.stage = .ended) {run : RunId}
    (hrun : run ∈ t.begun) : exists s, t.reconciler.stage? run = some s ∧ s.isOver = true :=
  h.past run hrun (by simp [hended])

theorem settled_of_ended {r : Reconciler} {history : List Event} (hregular : r.Regular)
    (hnew : r.runs = []) (hreconciler : t.reconciler = r.after history) (htracked : t.Tracked)
    (hended : t.task.stage = .ended) : Settled r history t := by
  have hregular' : t.reconciler.Regular := by
    rw [hreconciler]
    exact hregular.run history
  have hcovers : t.reconciler.Covers fun run => run ∉ t.begun := by
    intro run s hs hgoing hrun
    rcases htracked.exists_over hended hrun with ⟨s', hs', hover⟩
    cases hs.symm.trans hs'
    cases hgoing.symm.trans hover
  have hreleased : forall run, run ∈ t.begun ->
      t.reconciler.holder ≠ some run ∧ run ∉ t.reconciler.queue := by
    intro run hrun
    rcases htracked.exists_over hended hrun with ⟨s, hs, hover⟩
    exact Reconciler.released_of_isOver hregular'.locked hregular'.held hs hover
  constructor
  · exact hreconciler
  · intro more
    rcases after_of_ended hended more with ⟨hstage, hbegun⟩
    refine ⟨hstage, hbegun, ?_⟩
    intro run hrun
    rcases htracked.exists_over hended hrun with ⟨s, hs, hover⟩
    exact Reconciler.share_of_isOver hregular'.locked hs hover _
  · rw [hreconciler]
    exact Reconciler.published_last hregular.rooted history
  · intro run _ habandoned
    have htally := Reconciler.tally_after hregular.locked hregular.rooted
      (Reconciler.stage?_eq_none_of_nil hnew run) history
    rw [← hreconciler, habandoned] at htally
    exact htally
  · exact hreleased
  · intro hothers
    have hnone : forall run s, t.reconciler.stage? run = some s -> s.isOver ≠ false := by
      intro run s hs hgoing
      have hover := hothers run (hcovers run s hs hgoing)
      rw [Reconciler.isOver_eq hs, hgoing] at hover
      cases hover
    constructor
    · cases hholder : t.reconciler.holder with
      | none => rfl
      | some run =>
          rcases (hregular'.held.holds run hholder).right with ⟨s, hs, hactive⟩
          exact absurd (Reconciler.isOver_of_isActive hactive) (hnone run s hs)
    · apply List.eq_nil_iff_forall_not_mem.mpr
      intro run hqueue
      exact hnone run .waiting (hregular'.locked.queued run hqueue) rfl
  · intro answers run s hs hgoing
    exact ⟨hcovers run s hs hgoing,
      Reconciler.exists_end_of_going answers hregular' hcovers hs hgoing⟩

/-- Whatever has happened before the task started, and however its acts and those of others come
after one another, before its end and after it: no more than one run begins after the signal, the
task can end as soon as there is one, and its end is final. -/
theorem stopping_is_final (internalAddress : Option Address) (check : HealthCheck)
    (prior : List Event) (interval now : Time) (acts : List Act) :
    let t := start ((Reconciler.create internalAddress check).after prior) interval now
    (t.after acts).late.length ≤ 1 ∧
      ((t.after acts).signalled = true ->
        ((t.after acts).after [.wakes, .stops]).task.stage = .ended) ∧
      ((t.after acts).task.stage = .ended ->
        Settled (Reconciler.create internalAddress check) (prior ++ t.events acts)
          (t.after acts)) := by
  intro t
  have hregular := Reconciler.regular_create internalAddress check
  have hreconciler : (t.after acts).reconciler =
      (Reconciler.create internalAddress check).after (prior ++ t.events acts) := by
    rw [reconciler_after, Reconciler.after_append]
    rfl
  have htimely : (t.after acts).Timely := (timely_start _ interval now).after acts
  have htracked : (t.after acts).Tracked :=
    (tracked_start _ interval now).after (hregular.run prior).locked acts
  exact ⟨htimely.length_late, ended_of_signalled, fun hended =>
    settled_of_ended hregular rfl hreconciler htracked hended⟩

/-- The first run publishes a list. The signal comes before the second one is due, which begins all
the same, and is dropped at its connect. -/
def cutShort : List Act :=
  [.wakes, .ticks, .works .granted, .works (.answered 0 (.ok [memberA])),
    .works (.replied 0 0 (.error (.config "unreachable"))), .settles, .sleeps,
    .waits (Time.seconds 2), .signals, .wakes, .ticks, .works .granted,
    .works (.answered 1 (.ok [memberB])), .stops]

theorem settled_of_cutShort :
    let t := (start (.create none (NodeHealth.check false)) (Time.seconds 1) 0).after cutShort
    t.early = [0] ∧ t.late = [1] ∧ t.task.stage = .ended ∧ t.reconciler.directory.published = [0] ∧
      Settled (.create none (NodeHealth.check false))
        ((start (.create none (NodeHealth.check false)) (Time.seconds 1) 0).events cutShort) t := by
  have hfinal := stopping_is_final none (NodeHealth.check false) [] (Time.seconds 1) 0 cutShort
  have hended : ((start (.create none (NodeHealth.check false)) (Time.seconds 1) 0).after
      cutShort).task.stage = .ended := by
    decide +kernel
  refine ⟨?_, ?_, hended, ?_, hfinal.right.right hended⟩
  · decide +kernel
  · decide +kernel
  · decide +kernel

end Ticker
end ClusterNode
