import ClusterNode.Proofs.Reconciler.Stop

/-!
# The pace of a recurring task

A run that ends in time leaves the deadlines where they are, and so does one that ends a little
late: the next run begins late, and the one after it on time again. After a longer overrun the
deadlines are counted anew from the late beginning. In every mixture of the two no run begins before
the last one is over, no two begin much closer than a period, and none begins later than it has to.

The timer is part of the assumptions: while a task is idle, the clock does not pass its deadline.
-/

namespace ClusterNode

/-- When the runs of a task have begun, when they were over, and when they were due. The last
deadline is that of the run that is to come. -/
structure Diary where
  begun : List Time
  ended : List Time
  deadlines : List Time
  deriving DecidableEq, Repr

namespace Ticker

def isGoing (t : Ticker) : Bool :=
  match t.task.stage with
  | .running run => !t.reconciler.isOver run
  | _ => false

/-- No time passes beyond the deadline of an idle task. -/
def Punctual (t : Ticker) : List Act -> Prop
  | [] => True
  | act :: rest =>
      (t.task.stage = .idle -> (t.step act).1.now ≤ max t.now t.task.pace.due) ∧
        (t.step act).1.Punctual rest

instance decidablePunctual : (t : Ticker) -> (acts : List Act) -> Decidable (t.Punctual acts)
  | _, [] => inferInstanceAs (Decidable True)
  | t, act :: rest =>
      let _ := decidablePunctual (t.step act).1 rest
      inferInstanceAs (Decidable (_ ∧ (t.step act).1.Punctual rest))

end Ticker

namespace Diary

def start (origin : Time) : Diary := { begun := [], ended := [], deadlines := [origin] }

def begins (d : Diary) (now due : Time) : Diary :=
  { d with begun := d.begun ++ [now], deadlines := d.deadlines ++ [due] }

def ends (d : Diary) (now : Time) : Diary := { d with ended := d.ended ++ [now] }

def note (d : Diary) (t t' : Ticker) : Diary :=
  if t.begun.length < t'.begun.length then d.begins t'.now t'.task.pace.due
  else if t.isGoing = true ∧ t'.isGoing = false then d.ends t'.now
  else d

def EndsAt (d : Diary) (now : Time) : Prop :=
  exists k, d.begun.length = k + 1 ∧ d.ended[k]? = some now

end Diary

def Ticker.diary (t : Ticker) (d : Diary) : List Ticker.Act -> Diary
  | [] => d
  | act :: rest => (t.step act).1.diary (d.note t (t.step act).1) rest

/-!
## From one run to the next

A run begins when it is due and the one before it is over.
-/

namespace Diary

variable {d : Diary} {origin period now due : Time}

/-- A run begins as soon as it is due and the one before it is over, and its beginning sets the next
deadline. -/
structure Chained (origin period : Time) (d : Diary) : Prop where
  count : d.deadlines.length = d.begun.length + 1
  firstDue : d.deadlines[0]? = some origin
  first : forall s, d.begun[0]? = some s -> s = origin
  next : forall (k : Nat) (s' : Time), d.begun[k + 1]? = some s' -> exists e due,
    d.ended[k]? = some e ∧ d.deadlines[k + 1]? = some due ∧ s' = max e due
  lasts : forall (k : Nat) (s e : Time), d.begun[k]? = some s -> d.ended[k]? = some e -> s ≤ e
  sets : forall (k : Nat) (s : Time), d.begun[k]? = some s -> exists due,
    d.deadlines[k]? = some due ∧ due ≤ s ∧
      d.deadlines[k + 1]? = some ((Pace.mk period due).advance s).due

theorem getElem?_concat_of_some {xs : List Time} {k : Nat} {x : Time} (h : xs[k]? = some x)
    (y : Time) : (xs ++ [y])[k]? = some x :=
  (List.getElem?_append_left (List.getElem?_eq_some_iff.mp h).1).trans h

theorem getElem?_concat_cases {xs : List Time} {k : Nat} {x y : Time}
    (h : (xs ++ [y])[k]? = some x) : xs[k]? = some x ∨ k = xs.length ∧ x = y := by
  by_cases hlt : k < xs.length
  · exact Or.inl ((List.getElem?_append_left hlt).symm.trans h)
  · rw [List.getElem?_append_right (Nat.le_of_not_lt hlt)] at h
    rcases List.getElem?_eq_some_iff.mp h with ⟨hone, hx⟩
    have hlast : k = xs.length := by
      simp only [List.length_singleton] at hone
      omega
    subst hlast
    simp only [Nat.sub_self, List.getElem_cons_zero] at hx
    exact Or.inr ⟨rfl, hx.symm⟩

theorem chained_start (origin period : Time) : (start origin).Chained origin period := by
  constructor
  · rfl
  · rfl
  · intro s h
    cases h
  · intro k s' h
    cases h
  · intro k s e h
    cases h
  · intro k s h
    cases h

theorem Chained.begins (h : d.Chained origin period) (hended : d.ended.length = d.begun.length)
    (hdue : d.deadlines[d.begun.length]? = some due) (hle : due ≤ now)
    (hpast : forall e, e ∈ d.ended -> e ≤ now) (hsoon : now ≤ due ∨ d.EndsAt now) :
    (d.begins now ((Pace.mk period due).advance now).due).Chained origin period := by
  constructor
  · simp [Diary.begins, h.count]
  · exact getElem?_concat_of_some h.firstDue _
  · intro s hs
    rcases getElem?_concat_cases hs with hold | ⟨hzero, rfl⟩
    · exact h.first s hold
    · rw [← hzero, h.firstDue] at hdue
      cases hdue
      rcases hsoon with hsoon | ⟨k, hk, _⟩
      · exact Nat.le_antisymm hsoon hle
      · cases hzero.trans hk
  · intro k s' hs'
    rcases getElem?_concat_cases hs' with hold | ⟨hlast, rfl⟩
    · rcases h.next k s' hold with ⟨e, due', he, hdue', heq⟩
      exact ⟨e, due', he, getElem?_concat_of_some hdue' _, heq⟩
    · have hlt : k < d.ended.length := by omega
      have he := List.getElem?_eq_getElem hlt
      have hbefore := hpast _ (List.getElem_mem hlt)
      refine ⟨_, due, he, getElem?_concat_of_some (hlast ▸ hdue) _, ?_⟩
      rcases hsoon with hsoon | ⟨k', hk', hnow⟩
      · rw [Nat.le_antisymm hle hsoon]
        exact (Nat.max_eq_right hbefore).symm
      · have hsame : k' = k := by omega
        rw [hsame, he] at hnow
        cases hnow
        exact (Nat.max_eq_left hle).symm
  · intro k s e hs he
    rcases getElem?_concat_cases hs with hold | ⟨hlast, _⟩
    · exact h.lasts k s e hold he
    · have hlt := (List.getElem?_eq_some_iff.mp he).1
      simp only [Diary.begins] at hlt
      omega
  · intro k s hs
    rcases getElem?_concat_cases hs with hold | ⟨hlast, rfl⟩
    · rcases h.sets k s hold with ⟨due', hdue', hle', hset⟩
      exact ⟨due', getElem?_concat_of_some hdue' _, hle', getElem?_concat_of_some hset _⟩
    · subst hlast
      have hnew : d.begun.length + 1 = d.deadlines.length := h.count.symm
      refine ⟨due, getElem?_concat_of_some hdue _, hle, ?_⟩
      rw [hnew]
      exact List.getElem?_concat_length

theorem Chained.ends (h : d.Chained origin period) (hpast : forall s, s ∈ d.begun -> s ≤ now) :
    (d.ends now).Chained origin period := by
  constructor
  · exact h.count
  · exact h.firstDue
  · exact h.first
  · intro k s' hs'
    rcases h.next k s' hs' with ⟨e, due', he, hrest⟩
    exact ⟨e, due', getElem?_concat_of_some he _, hrest⟩
  · intro k s e hs he
    rcases getElem?_concat_cases he with hold | ⟨_, rfl⟩
    · exact h.lasts k s e hs hold
    · exact hpast s (List.mem_of_getElem? hs)
  · exact h.sets

theorem endsAt_ends (hgoing : d.ended.length + 1 = d.begun.length) : (d.ends now).EndsAt now :=
  ⟨d.ended.length, hgoing.symm, List.getElem?_concat_length⟩

end Diary

/-!
## The diary of a task

Of what happens the diary tells only what the task does: a run begins or ends, and time passes while
the task sleeps. An event of others leaves the run of the task as it is.
-/

namespace Ticker

variable {t t' : Ticker} {events : List Event} {d : Diary} {origin period : Time}

theorem isGoing_of_running {run : RunId} (h : t.task.stage = .running run) :
    t.isGoing = !t.reconciler.isOver run := by
  unfold isGoing
  rw [h]

theorem isGoing_of_idle (h : t.task.stage = .idle) : t.isGoing = false := by
  unfold isGoing
  rw [h]

theorem isGoing_of_ended (h : t.task.stage = .ended) : t.isGoing = false := by
  unfold isGoing
  rw [h]

theorem isGoing_eq_true_iff (t : Ticker) : t.isGoing = true <->
    exists run, t.task.stage = .running run ∧ t.reconciler.isOver run = false := by
  unfold isGoing
  cases t.task.stage with
  | idle => simp
  | running run => simp
  | ended => simp

/-- What the diary of a task knows of it. The clock has not passed the deadline of an idle task,
unless a run has just ended, and a run that has ended is noticed at once. -/
structure Kept (origin period : Time) (t : Ticker) (d : Diary) : Prop where
  chained : d.Chained origin period
  period : t.task.pace.period = period
  due : d.deadlines[d.begun.length]? = some t.task.pace.due
  begun : d.begun.length = t.begun.length
  going : t.isGoing = true -> d.ended.length + 1 = d.begun.length
  closed : t.isGoing = false -> d.ended.length = d.begun.length
  past : forall s, s ∈ d.begun -> s ≤ t.now
  past' : forall e, e ∈ d.ended -> e ≤ t.now
  idle : t.task.stage = .idle -> t.now ≤ t.task.pace.due ∨ d.EndsAt t.now
  noticed : forall run, t.task.stage = .running run -> t.reconciler.isOver run = true ->
    t.awake = true ∧ d.EndsAt t.now

theorem kept_start (r : Reconciler) (interval now : Time) :
    (start r interval now).Kept now (max Pace.shortest interval) (.start now) := by
  constructor
  · exact Diary.chained_start now _
  · rfl
  · rfl
  · rfl
  · intro h
    cases h
  · intro _
    rfl
  · intro s h
    cases h
  · intro e h
    cases h
  · intro _
    exact Or.inl (Nat.le_refl now)
  · intro run h
    cases h

theorem note_of_same (d : Diary) (hbegun : t'.begun = t.begun) (hgoing : t'.isGoing = t.isGoing) :
    d.note t t' = d := by
  have hnone : ¬(t.isGoing = true ∧ t'.isGoing = false) := by
    rw [hgoing]
    rintro ⟨htrue, hfalse⟩
    cases htrue.symm.trans hfalse
  unfold Diary.note
  rw [hbegun, if_neg (Nat.lt_irrefl _), if_neg hnone]

theorem note_of_over (d : Diary) (hbegun : t'.begun = t.begun) (hgoing : t.isGoing = true)
    (hover : t'.isGoing = false) : d.note t t' = d.ends t'.now := by
  unfold Diary.note
  rw [hbegun, if_neg (Nat.lt_irrefl _), if_pos ⟨hgoing, hover⟩]

theorem Kept.rests (h : t.Kept origin period d) (htask : t'.task = t.task)
    (hbegun : t'.begun = t.begun) (hnow : t'.now = t.now) (hgoing : t'.isGoing = t.isGoing)
    (hawake : t.isReady = true -> t.awake = true -> t'.awake = true) :
    t'.Kept origin period (d.note t t') := by
  rw [note_of_same d hbegun hgoing]
  constructor
  · exact h.chained
  · exact htask ▸ h.period
  · exact htask ▸ h.due
  · exact hbegun ▸ h.begun
  · exact hgoing ▸ h.going
  · exact hgoing ▸ h.closed
  · exact hnow ▸ h.past
  · exact hnow ▸ h.past'
  · rw [htask, hnow]
    exact h.idle
  · intro run hrunning hover
    rw [isGoing_of_running hrunning, hover] at hgoing
    rw [htask] at hrunning
    rw [isGoing_of_running hrunning] at hgoing
    have hover' : t.reconciler.isOver run = true := by simpa using hgoing.symm
    rcases h.noticed run hrunning hover' with ⟨hwaking, hends⟩
    have hready : t.isReady = true := by
      unfold isReady
      rw [hrunning]
      exact hover'
    exact ⟨hawake hready hwaking, hnow ▸ hends⟩

theorem Kept.finishes (h : t.Kept origin period d) (hpace : t'.task.pace = t.task.pace)
    (hbegun : t'.begun = t.begun) (hnow : t'.now = t.now) (hgoing : t.isGoing = true)
    (hover : t'.isGoing = false) (hbusy : t'.task.stage ≠ .idle)
    (hawake : forall run, t'.task.stage = .running run -> t'.awake = true) :
    t'.Kept origin period (d.note t t') := by
  have hlength := h.going hgoing
  rw [note_of_over d hbegun hgoing hover, hnow]
  constructor
  · exact h.chained.ends h.past
  · exact hpace ▸ h.period
  · exact hpace ▸ h.due
  · exact hbegun ▸ h.begun
  · intro hgoing'
    cases hover.symm.trans hgoing'
  · intro _
    simpa [Diary.ends] using hlength
  · exact hnow ▸ h.past
  · intro e he
    rw [hnow]
    rcases List.mem_append.mp he with hold | hnew
    · exact h.past' e hold
    · exact Nat.le_of_eq (List.mem_singleton.mp hnew)
  · intro hidle
    exact absurd hidle hbusy
  · intro run hrunning _
    exact ⟨hawake run hrunning, hnow ▸ Diary.endsAt_ends hlength⟩

theorem Kept.leaves (h : t.Kept origin period d) (hpace : t'.task.pace = t.task.pace)
    (hbegun : t'.begun = t.begun) (hnow : t'.now = t.now) (hover : t.isGoing = false)
    (hfree : forall run, t'.task.stage ≠ .running run)
    (hidle : t'.task.stage = .idle -> d.EndsAt t.now) : t'.Kept origin period (d.note t t') := by
  have hover' : t'.isGoing = false := by
    rw [← Bool.not_eq_true, isGoing_eq_true_iff]
    rintro ⟨run, hrunning, _⟩
    exact hfree run hrunning
  rw [note_of_same d hbegun (hover'.trans hover.symm)]
  constructor
  · exact h.chained
  · exact hpace ▸ h.period
  · exact hpace ▸ h.due
  · exact hbegun ▸ h.begun
  · intro hgoing
    cases hover'.symm.trans hgoing
  · intro _
    exact h.closed hover
  · exact hnow ▸ h.past
  · exact hnow ▸ h.past'
  · intro hstage
    exact Or.inr (hnow ▸ hidle hstage)
  · intro run hrunning
    exact absurd hrunning (hfree run)

theorem Kept.waits (h : t.Kept origin period d) (w : Time) (hasleep : t.awake = false)
    (hpunctual : t.task.stage = .idle -> t.now + w ≤ max t.now t.task.pace.due) :
    { t with now := t.now + w }.Kept origin period (d.note t { t with now := t.now + w }) := by
  have hsame : d.note t { t with now := t.now + w } = d := note_of_same d rfl rfl
  rw [hsame]
  constructor
  · exact h.chained
  · exact h.period
  · exact h.due
  · exact h.begun
  · exact h.going
  · exact h.closed
  · intro s hs
    exact Nat.le_trans (h.past s hs) (Nat.le_add_right _ _)
  · intro e he
    exact Nat.le_trans (h.past' e he) (Nat.le_add_right _ _)
  · intro hidle
    have hbound := hpunctual hidle
    by_cases hearly : t.now ≤ t.task.pace.due
    · rw [Nat.max_eq_right hearly] at hbound
      exact Or.inl hbound
    · rw [Nat.max_eq_left (Nat.le_of_not_le hearly)] at hbound
      rcases h.idle hidle with hsoon | hends
      · exact absurd hsoon hearly
      · have hstill : t.now + w = t.now := Nat.le_antisymm hbound (Nat.le_add_right _ _)
        exact Or.inr (hstill.symm ▸ hends)
  · intro run hrunning hover
    cases hasleep.symm.trans (h.noticed run hrunning hover).left

theorem Kept.ticks (h : t.Kept origin period d) (hidle : t.task.stage = .idle)
    (hdue : t.task.pace.due ≤ t.now) (hpace : t'.task.pace = t.task.pace.advance t.now)
    (hbegun : t'.begun.length = t.begun.length + 1) (hnow : t'.now = t.now)
    (hgoing : t'.isGoing = true) : t'.Kept origin period (d.note t t') := by
  have hlength := h.closed (isGoing_of_idle hidle)
  have hnext : t'.task.pace.due = ((Pace.mk period t.task.pace.due).advance t.now).due := by
    rw [hpace, ← h.period]
  have hlater : t.begun.length < t'.begun.length := by omega
  have hnote : d.note t t' =
      d.begins t.now ((Pace.mk period t.task.pace.due).advance t.now).due := by
    unfold Diary.note
    rw [if_pos hlater, hnow, hnext]
  rw [hnote]
  constructor
  · exact h.chained.begins hlength h.due hdue h.past' (h.idle hidle)
  · rw [hpace]
    exact h.period
  · have hnew : (d.begins t.now ((Pace.mk period t.task.pace.due).advance t.now).due).begun.length =
        d.deadlines.length := by
      simp [Diary.begins, h.chained.count]
    rw [hnew, hnext]
    exact List.getElem?_concat_length
  · simp [Diary.begins, h.begun, hbegun]
  · intro _
    simp [Diary.begins, hlength]
  · intro hover
    cases hgoing.symm.trans hover
  · intro s hs
    rw [hnow]
    rcases List.mem_append.mp hs with hold | hnew
    · exact h.past s hold
    · exact Nat.le_of_eq (List.mem_singleton.mp hnew)
  · exact hnow ▸ h.past'
  · intro hidle'
    cases hgoing.symm.trans (isGoing_of_idle hidle')
  · intro run hrunning hover
    rw [isGoing_of_running hrunning, hover] at hgoing
    cases hgoing

theorem isGoing_happens {event : Event} (hother : t.owns event = false) (htask : t'.task = t.task)
    (hreconciler : t'.reconciler = (t.reconciler.step event).1) : t'.isGoing = t.isGoing := by
  cases hstage : t.task.stage with
  | idle => rw [isGoing_of_idle hstage, isGoing_of_idle (htask ▸ hstage)]
  | ended => rw [isGoing_of_ended hstage, isGoing_of_ended (htask ▸ hstage)]
  | running run =>
      have howner : t.reconciler.owner? event ≠ some run := by
        intro howner
        rw [(owns_eq_true_iff t event).mpr ⟨run, hstage, howner⟩] at hother
        cases hother
      have hsame := Reconciler.stage?_step_of_owner?_ne howner
      rw [isGoing_of_running hstage, isGoing_of_running (htask ▸ hstage), hreconciler]
      unfold Reconciler.isOver
      rw [hsame]

theorem isGoing_take (htracked : t.Tracked) (hlocked : t.reconciler.Locked) {run : RunId}
    (hrunning : t.task.stage = .running run) (hover : t.isGoing = false) {event : Event}
    (htask : t'.task = t.task) (hreconciler : t'.reconciler = (t.reconciler.step event).1) :
    t'.isGoing = false := by
  rcases htracked.current run hrunning with ⟨s, hs⟩
  rw [isGoing_of_running hrunning, Bool.not_eq_false', Reconciler.isOver_eq hs] at hover
  have hs' := Reconciler.stage?_step_of_isOver hlocked hs hover event
  rw [isGoing_of_running (htask ▸ hrunning), hreconciler, Reconciler.isOver_eq hs', hover]
  rfl

theorem Change.kept (h : Change t t' events) (hkept : t.Kept origin period d)
    (htracked : t.Tracked) (hlocked : t.reconciler.Locked)
    (hpunctual : t.task.stage = .idle -> t'.now ≤ max t.now t.task.pace.due) :
    t'.Kept origin period (d.note t t') := by
  cases h with
  | rests => exact hkept.rests rfl rfl rfl rfl fun _ hawake => hawake
  | waits w hasleep => exact hkept.waits w hasleep hpunctual
  | happens event hother =>
      exact hkept.rests rfl rfl rfl (isGoing_happens hother rfl rfl) fun _ hawake => hawake
  | signals _ => exact hkept.rests rfl rfl rfl rfl fun _ hawake => hawake
  | wakes _ => exact hkept.rests rfl rfl rfl rfl fun _ _ => rfl
  | ticks early late _ hidle hdue hcases =>
      refine hkept.ticks hidle hdue rfl ?_ rfl ?_
      · rcases hcases with ⟨_, rfl, rfl⟩ | ⟨_, rfl, rfl⟩
        · simp [begun, Nat.add_assoc]
        · simp [begun, Nat.add_assoc]
      · rw [isGoing_eq_true_iff]
        refine ⟨_, rfl, ?_⟩
        exact Reconciler.isOver_eq ((Reconciler.stage?_begin _ _ _).trans (if_pos rfl))
  | @works event run hawake hrunning _ _ =>
      cases hgoing : t.isGoing with
      | false =>
          have hover : { t with reconciler := (t.reconciler.step event).1 }.isGoing = false :=
            isGoing_take htracked hlocked hrunning hgoing rfl rfl
          exact hkept.rests rfl rfl rfl (hover.trans hgoing.symm) fun _ hawake => hawake
      | true =>
          cases hgoing' : { t with reconciler := (t.reconciler.step event).1 }.isGoing with
          | false =>
              refine hkept.finishes rfl rfl rfl hgoing hgoing' ?_ fun _ _ => hawake
              simp [hrunning]
          | true => exact hkept.rests rfl rfl rfl (hgoing'.trans hgoing.symm) fun _ hawake => hawake
  | settles _ hrunning hover =>
      refine hkept.leaves rfl rfl rfl ?_ (by simp) fun _ => (hkept.noticed _ hrunning hover).right
      rw [isGoing_of_running hrunning, hover]
      rfl
  | cuts _ _ _ =>
      cases hgoing : t.isGoing with
      | false => exact hkept.leaves rfl rfl rfl hgoing (by simp) (by simp)
      | true => exact hkept.finishes rfl rfl rfl hgoing rfl (by simp) (by simp)
  | ends _ _ hidle => exact hkept.leaves rfl rfl rfl (isGoing_of_idle hidle) (by simp) (by simp)
  | sleeps _ hnothing =>
      refine hkept.rests rfl rfl rfl rfl fun hready _ => ?_
      cases hnothing.symm.trans hready

theorem Kept.after (h : t.Kept origin period d) (htracked : t.Tracked)
    (hlocked : t.reconciler.Locked) {acts : List Act} (hpunctual : t.Punctual acts) :
    (t.after acts).Kept origin period (t.diary d acts) := by
  induction acts generalizing t d with
  | nil => exact h
  | cons act rest ih =>
      have hchange := change_step t act
      refine ih (hchange.kept h htracked hlocked hpunctual.left)
        (hchange.tracked htracked hlocked) ?_ hpunctual.right
      rw [hchange.reconciler_eq]
      exact hlocked.run _

end Ticker

/-!
## What follows for a whole history

A deadline is at most the tolerance short of a period after the last beginning. As long as the runs
end in time, each begins at most the tolerance after its deadline.
-/

namespace Diary

variable {d : Diary} {origin period : Time}

theorem due_advance_of_late {due s : Time} (h : due + Pace.tolerance < s) :
    ((Pace.mk period due).advance s).due = s + period :=
  congrArg (fun base => base + period) (if_pos h)

theorem due_advance_of_not_late {due s : Time} (h : s ≤ due + Pace.tolerance) :
    ((Pace.mk period due).advance s).due = due + period :=
  congrArg (fun base => base + period) (if_neg (Nat.not_lt_of_le h))

/-- A deadline is at most the tolerance short of a period after the last beginning. -/
theorem due_advance_bounds {due s : Time} (h : due ≤ s) :
    s + period ≤ ((Pace.mk period due).advance s).due + Pace.tolerance ∧
      ((Pace.mk period due).advance s).due ≤ s + period := by
  by_cases hlate : due + Pace.tolerance < s
  · rw [due_advance_of_late hlate]
    exact ⟨Nat.le_add_right _ _, Nat.le_refl _⟩
  · have hclose := Nat.le_of_not_lt hlate
    rw [due_advance_of_not_late hclose, Nat.add_right_comm]
    exact ⟨Nat.add_le_add_right hclose period, Nat.add_le_add_right h period⟩

/-- The moments of the runs of a task that has started at `origin`. -/
structure Paced (origin period : Time) (d : Diary) : Prop where
  first : forall s, d.begun[0]? = some s -> s = origin
  apart : forall (k : Nat) (s s' : Time), d.begun[k]? = some s -> d.begun[k + 1]? = some s' ->
    exists e, d.ended[k]? = some e ∧ s ≤ e ∧ e ≤ s' ∧ s + period ≤ s' + Pace.tolerance ∧
      s' ≤ max e (s + period)
  steady : forall (k : Nat) (due : Time), d.deadlines[k]? = some due ->
    (forall (j : Nat) (e due' : Time), j + 1 < k -> d.ended[j]? = some e ->
      d.deadlines[j + 1]? = some due' -> e ≤ due' + Pace.tolerance) ->
    due = origin + k * period
  shifted : forall (k : Nat) (e due s' : Time), d.ended[k]? = some e ->
    d.deadlines[k + 1]? = some due -> due + Pace.tolerance < e -> d.begun[k + 1]? = some s' ->
    s' = e ∧ d.deadlines[k + 2]? = some (s' + period)

theorem Chained.apart (h : d.Chained origin period) {k : Nat} {s s' : Time}
    (hs : d.begun[k]? = some s) (hs' : d.begun[k + 1]? = some s') :
    exists e, d.ended[k]? = some e ∧ s ≤ e ∧ e ≤ s' ∧ s + period ≤ s' + Pace.tolerance ∧
      s' ≤ max e (s + period) := by
  rcases h.next k s' hs' with ⟨e, due, he, hdue, rfl⟩
  rcases h.sets k s hs with ⟨last, _, hle, hset⟩
  rw [hdue] at hset
  cases hset
  have hbounds : s + period ≤ ((Pace.mk period last).advance s).due + Pace.tolerance ∧
      ((Pace.mk period last).advance s).due ≤ s + period := due_advance_bounds hle
  rcases hbounds with ⟨hearliest, hlatest⟩
  have hbound : s + period ≤ max e ((Pace.mk period last).advance s).due + Pace.tolerance :=
    Nat.le_trans hearliest (Nat.add_le_add_right (Nat.le_max_right _ _) _)
  have hmost : max e ((Pace.mk period last).advance s).due ≤ max e (s + period) :=
    Nat.max_le.mpr ⟨Nat.le_max_left _ _, Nat.le_trans hlatest (Nat.le_max_right _ _)⟩
  exact ⟨e, he, h.lasts k s e hs he, Nat.le_max_left _ _, hbound, hmost⟩

/-- As long as the runs end in time, a run begins at most the tolerance after its deadline. -/
theorem Chained.begun_le (h : d.Chained origin period) {k : Nat} {due s : Time}
    (hdue : d.deadlines[k]? = some due) (hs : d.begun[k]? = some s)
    (htimely : forall (j : Nat) (e due' : Time), j + 1 < k + 1 -> d.ended[j]? = some e ->
      d.deadlines[j + 1]? = some due' -> e ≤ due' + Pace.tolerance) : s ≤ due + Pace.tolerance := by
  cases k with
  | zero =>
      rw [h.firstDue] at hdue
      cases hdue
      rw [h.first s hs]
      exact Nat.le_add_right _ _
  | succ k =>
      rcases h.next k s hs with ⟨e, due', he, hdue', rfl⟩
      cases hdue.symm.trans hdue'
      exact Nat.max_le.mpr ⟨htimely k e due (Nat.lt_succ_self _) he hdue, Nat.le_add_right _ _⟩

theorem Chained.steady (h : d.Chained origin period) (k : Nat) (due : Time)
    (hdue : d.deadlines[k]? = some due)
    (htimely : forall (j : Nat) (e due' : Time), j + 1 < k -> d.ended[j]? = some e ->
      d.deadlines[j + 1]? = some due' -> e ≤ due' + Pace.tolerance) :
    due = origin + k * period := by
  induction k generalizing due with
  | zero =>
      rw [h.firstDue] at hdue
      cases hdue
      rw [Nat.zero_mul]
      rfl
  | succ k ih =>
      have hlt : k < d.begun.length := by
        have hshort := (List.getElem?_eq_some_iff.mp hdue).1
        have hcount := h.count
        omega
      have hs := List.getElem?_eq_getElem hlt
      rcases h.sets k _ hs with ⟨last, hlast, _, hset⟩
      rw [hdue] at hset
      cases hset
      have hclose := h.begun_le hlast hs htimely
      have hbefore : last = origin + k * period :=
        ih last hlast fun j e due' hj => htimely j e due' (Nat.lt_succ_of_lt hj)
      rw [due_advance_of_not_late hclose, hbefore, Nat.succ_mul, Nat.add_assoc]

theorem Chained.shifted (h : d.Chained origin period) {k : Nat} {e due s' : Time}
    (he : d.ended[k]? = some e) (hdue : d.deadlines[k + 1]? = some due)
    (hlate : due + Pace.tolerance < e) (hs' : d.begun[k + 1]? = some s') :
    s' = e ∧ d.deadlines[k + 2]? = some (s' + period) := by
  rcases h.next k s' hs' with ⟨_, _, he', hdue', hmax⟩
  cases he.symm.trans he'
  cases hdue.symm.trans hdue'
  have hlater : s' = e := by
    rw [hmax]
    exact Nat.max_eq_left (Nat.le_trans (Nat.le_add_right due _) (Nat.le_of_lt hlate))
  subst hlater
  rcases h.sets (k + 1) s' hs' with ⟨_, hdue'', _, hset⟩
  cases hdue.symm.trans hdue''
  rw [due_advance_of_late hlate] at hset
  exact ⟨rfl, hset⟩

theorem Chained.paced (h : d.Chained origin period) : d.Paced origin period :=
  ⟨h.first, fun _ _ _ => h.apart, h.steady, fun _ _ _ _ => h.shifted⟩

end Diary

namespace Ticker

variable {t : Ticker} {d : Diary} {origin period : Time}

structure Awaits (origin period : Time) (t : Ticker) (d : Diary) : Prop where
  first : t.task.stage ≠ .ended -> d.begun = [] -> t.now ≤ origin
  next : t.task.stage ≠ .ended -> forall (k : Nat) (s e : Time), d.begun.length = k + 1 ->
    d.begun[k]? = some s -> d.ended[k]? = some e -> t.now ≤ max e (s + period)
  ready : t.task.stage ≠ .ended -> t.isGoing = false -> t.task.pace.due ≤ t.now ->
    (t.after [.wakes, .settles, .ticks]).begun.length = t.begun.length + 1

theorem Kept.idle_or_endsAt (h : t.Kept origin period d) (hgoing : t.isGoing = false)
    (hends : t.task.stage ≠ .ended) :
    t.task.stage = .idle ∧ t.now ≤ t.task.pace.due ∨ d.EndsAt t.now := by
  cases hstage : t.task.stage with
  | idle =>
      rcases h.idle hstage with hsoon | hnow
      · exact Or.inl ⟨rfl, hsoon⟩
      · exact Or.inr hnow
  | running run =>
      rw [isGoing_of_running hstage, Bool.not_eq_false'] at hgoing
      exact Or.inr (h.noticed run hstage hgoing).right
  | ended => exact absurd hstage hends

theorem Kept.now_le_origin (h : t.Kept origin period d) (hends : t.task.stage ≠ .ended)
    (hnone : d.begun = []) : t.now ≤ origin := by
  have hgoing : t.isGoing = false := by
    rw [← Bool.not_eq_true]
    intro hgoing
    have hlength := h.going hgoing
    simp [hnone] at hlength
  have hdue := h.due
  rw [hnone, List.length_nil, h.chained.firstDue] at hdue
  rcases h.idle_or_endsAt hgoing hends with ⟨_, hsoon⟩ | ⟨k, hk, _⟩
  · rw [Option.some.inj hdue]
    exact hsoon
  · simp [hnone] at hk

theorem Kept.now_le (h : t.Kept origin period d) (hends : t.task.stage ≠ .ended) {k : Nat}
    {s e : Time} (hk : d.begun.length = k + 1) (hs : d.begun[k]? = some s)
    (he : d.ended[k]? = some e) : t.now ≤ max e (s + period) := by
  have hgoing : t.isGoing = false := by
    rw [← Bool.not_eq_true]
    intro hgoing
    have hlength := h.going hgoing
    have hlt := (List.getElem?_eq_some_iff.mp he).1
    omega
  rcases h.idle_or_endsAt hgoing hends with ⟨_, hsoon⟩ | ⟨k', hk', hnow⟩
  · rcases h.chained.sets k s hs with ⟨last, _, hle, hset⟩
    have hdue := h.due
    rw [hk, hset] at hdue
    rw [← Option.some.inj hdue] at hsoon
    exact Nat.le_trans (Nat.le_trans hsoon (Diary.due_advance_bounds hle).right)
      (Nat.le_max_right _ _)
  · have hsame : k' = k := by omega
    rw [hsame, he] at hnow
    cases hnow
    exact Nat.le_max_left _ _

theorem length_begun_ticks (hawake : t.awake = true) (hidle : t.task.stage = .idle)
    (hdue : t.task.pace.due ≤ t.now) : (t.step .ticks).1.begun.length = t.begun.length + 1 := by
  have hstep : (t.step .ticks).1 = t.tick.1 :=
    congrArg Prod.fst (if_pos ⟨hawake, hidle, hdue⟩)
  rw [hstep]
  unfold tick
  cases t.signalled with
  | false => simp [begun, Nat.add_assoc]
  | true => simp [begun, Nat.add_assoc]

theorem length_begun_of_due (hends : t.task.stage ≠ .ended) (hgoing : t.isGoing = false)
    (hdue : t.task.pace.due ≤ t.now) :
    (t.after [.wakes, .settles, .ticks]).begun.length = t.begun.length + 1 := by
  have hwakes : (t.step .wakes).1 = { t with awake := true, unseen := false } :=
    congrArg Prod.fst (if_pos hends)
  have hsettles : ({ t with awake := true, unseen := false }.step .settles).1 =
      { t with awake := true, unseen := false, task := t.task.settle t.reconciler } := rfl
  have hidle : t.task.settle t.reconciler = { t.task with stage := .idle } := by
    unfold RecurringTask.settle
    cases hstage : t.task.stage with
    | idle =>
        dsimp only
        rw [← hstage]
    | running run =>
        rw [isGoing_of_running hstage, Bool.not_eq_false'] at hgoing
        exact if_pos hgoing
    | ended => exact absurd hstage hends
  show (((t.step .wakes).1.step .settles).1.step .ticks).1.begun.length = t.begun.length + 1
  rw [hwakes, hsettles, hidle]
  exact length_begun_ticks rfl rfl hdue

theorem Kept.awaits (h : t.Kept origin period d) : t.Awaits origin period d :=
  ⟨h.now_le_origin, fun hends _ _ _ => h.now_le hends, length_begun_of_due⟩

/-- Whatever has happened before the task started, and however long its runs take: the first run
begins when the task starts, the runs do not overlap, two of them begin at most the tolerance closer
than a period, none is skipped or put off, and the deadlines drift only where a run has ended more
than the tolerance after the deadline of the next one. -/
theorem runs_keep_pace (internalAddress : Option Address) (check : HealthCheck)
    (prior : List Event) (interval origin : Time) (acts : List Act)
    (hpunctual : (start ((Reconciler.create internalAddress check).after prior) interval
      origin).Punctual acts) :
    let t := start ((Reconciler.create internalAddress check).after prior) interval origin
    let d := t.diary (.start origin) acts
    d.Paced origin (max Pace.shortest interval) ∧
      d.begun.length = (t.after acts).begun.length ∧
      (t.after acts).Awaits origin (max Pace.shortest interval) d := by
  intro t d
  have hlocked := ((Reconciler.regular_create internalAddress check).run prior).locked
  have hkept : (t.after acts).Kept origin (max Pace.shortest interval) d :=
    (kept_start _ interval origin).after (tracked_start _ interval origin) hlocked hpunctual
  exact ⟨hkept.chained.paced, hkept.begun, hkept.awaits⟩

/-- Runs that fail at their query. The first ends a little late, the third much too late. -/
def overruns : List Act :=
  let fails (run : RunId) : List Act :=
    [.wakes, .works (.answered run (.error (.config "unreachable"))), .settles]
  [.wakes, .ticks, .works .granted, .sleeps, .waits (Time.millis 103)] ++ fails 0 ++
    [.ticks, .works .granted, .sleeps, .waits (Time.millis 47)] ++ fails 1 ++
    [.sleeps, .waits (Time.millis 50)] ++
    [.wakes, .ticks, .works .granted, .sleeps, .waits (Time.millis 210)] ++ fails 2 ++
    [.ticks, .works .granted] ++ fails 3 ++ [.sleeps, .waits (Time.millis 100), .wakes, .ticks]

theorem runs_keep_pace_overruns :
    let t := start (.create none (NodeHealth.check false)) 0 0
    t.diary (.start 0) overruns =
        { begun := [0, 103, 200, 410, 510].map Time.millis
          ended := [103, 150, 410, 410].map Time.millis
          deadlines := [0, 100, 200, 300, 510, 610].map Time.millis } ∧
      (t.diary (.start 0) overruns).Paced 0 (Time.millis 100) := by
  have hpunctual :
      (start (.create none (NodeHealth.check false)) 0 0).Punctual overruns := by
    decide +kernel
  refine ⟨?_, (runs_keep_pace none (NodeHealth.check false) [] 0 0 overruns hpunctual).left⟩
  decide +kernel

end Ticker
end ClusterNode
