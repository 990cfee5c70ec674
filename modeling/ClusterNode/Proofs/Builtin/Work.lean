import ClusterNode.Builtin.Node
import ClusterNode.Proofs.Reconciler.Report

/-!
# The recurring task of a node

The task of a node begins a run, and the run queries the membership, is told of an answer and hears
from the connectors, until it is over and the task is idle again. Answers may be any at all, and
each of these steps may be the last one. Who the node takes itself for stays the same all along, so
every list that is published has this node in it exactly when the answer before it has.
-/

namespace ClusterNode

inductive Note where
  | registered (address : Address) (answer : Except ClusterError Unit)
  | told (run : RunId) (answer : Except ClusterError (List Address))
  | did (effect : Effect)

/-- The part of a node that only its core module changes, and what is written down about it. -/
structure Charge where
  reconciler : Option Reconciler
  task : Option RecurringTask
  notes : List Note

inductive Work where
  | begins (now : Time)
  | granted
  | told (answer : Except ClusterError (List Address))
  | heard (attempt : Nat) (answer : Except ClusterError Channel)
  | settles

namespace Charge

def take (c : Charge) (r : Reconciler) (event : Event) : Charge :=
  { c with
    reconciler := some (r.step event).1
    notes := c.notes ++ (r.step event).2.map Note.did }

def tell (c : Charge) (task : RecurringTask) (r : Reconciler)
    (answer : Except ClusterError (List Address)) : Charge :=
  match task.stage with
  | .running run =>
      match r.stage? run with
      | some .querying =>
          { c with notes := c.notes ++ [Note.told run answer] }.take r (.answered run answer)
      | _ => c
  | _ => c

def hear (c : Charge) (task : RecurringTask) (r : Reconciler) (attempt : Nat)
    (answer : Except ClusterError Channel) : Charge :=
  match task.stage with
  | .running run => c.take r (.replied run attempt answer)
  | _ => c

def grant (c : Charge) (task : RecurringTask) (r : Reconciler) : Charge :=
  match task.stage with
  | .running _ => c.take r .granted
  | _ => c

def work (c : Charge) (w : Work) : Charge :=
  match c.task, c.reconciler with
  | some task, some r =>
      match w with
      | .begins now =>
          let (task, r, effects) := task.tick now r
          { reconciler := some r, task := some task, notes := c.notes ++ effects.map Note.did }
      | .granted => c.grant task r
      | .told answer => c.tell task r answer
      | .heard attempt answer => c.hear task r attempt answer
      | .settles => { c with task := some (task.settle r) }
  | _, _ => c

def after (c : Charge) (works : List Work) : Charge := works.foldl work c

def stopped (c : Charge) : Charge :=
  match c.task, c.reconciler with
  | some task, some r =>
      { c with task := some (task.stop r).1, reconciler := some (task.stop r).2 }
  | _, _ => { c with task := none }

variable {c c' : Charge} {r r' : Reconciler} {task : RecurringTask}

theorem after_append (c : Charge) (a b : List Work) : c.after (a ++ b) = (c.after a).after b :=
  List.foldl_append

/-- No task is at work: none was started, or the one that was has ended. -/
def Still (c : Charge) : Prop := forall task, c.task = some task -> task.stage = .ended

theorem still_of_task_none (h : c.task = none) : c.Still := by
  intro task htask
  cases h.symm.trans htask

theorem work_of_still (h : c.Still) (w : Work) : c.work w = c := by
  rcases c with ⟨_ | r, _ | task, notes⟩
  · rfl
  · rfl
  · rfl
  · have hended : task.stage = .ended := h task rfl
    cases w with
    | begins now => simp [work, RecurringTask.tick, hended]
    | granted => simp [work, grant, hended]
    | told answer => simp [work, tell, hended]
    | heard attempt answer => simp [work, hear, hended]
    | settles => simp [work, RecurringTask.settle, hended]

theorem after_of_still (h : c.Still) (works : List Work) : c.after works = c := by
  induction works with
  | nil => rfl
  | cons w rest ih =>
      show (c.work w).after rest = c
      rw [work_of_still h w]
      exact ih

theorem still_stopped (c : Charge) : c.stopped.Still := by
  unfold stopped
  split
  · intro task htask
    cases htask
    rfl
  · exact still_of_task_none rfl

@[simp] theorem notes_stopped (c : Charge) : c.stopped.notes = c.notes := by
  unfold stopped
  split
  · rfl
  · rfl

theorem stopped_of_task_none (h : c.task = none) : c.stopped = c := by
  unfold stopped
  rw [h]
  rcases c with ⟨_, _, _⟩
  cases h
  rfl

/-!
## What one step does
-/

/-- What may become of a charge in one step of its task. -/
inductive Worked (c : Charge) : Charge -> Prop where
  | rests : Worked c c
  | begins (now : Time) {task : RecurringTask} {r : Reconciler} : c.task = some task ->
      c.reconciler = some r -> task.stage = .idle ->
      Worked c { c.take r (.begun .serial) with
        task := some { pace := task.pace.advance now, stage := .running r.runs.length } }
  | granted {task : RecurringTask} {r : Reconciler} : c.task = some task ->
      c.reconciler = some r -> Worked c (c.take r .granted)
  | told (answer : Except ClusterError (List Address)) {task : RecurringTask} {r : Reconciler}
      {run : RunId} : c.task = some task -> c.reconciler = some r -> task.stage = .running run ->
      r.stage? run = some .querying ->
      Worked c ({ c with notes := c.notes ++ [Note.told run answer] }.take r (.answered run answer))
  | heard (attempt : Nat) (answer : Except ClusterError Channel) {task : RecurringTask}
      {r : Reconciler} {run : RunId} : c.task = some task -> c.reconciler = some r ->
      task.stage = .running run -> Worked c (c.take r (.replied run attempt answer))
  | settles {task : RecurringTask} {r : Reconciler} {run : RunId} : c.task = some task ->
      c.reconciler = some r -> task.stage = .running run -> r.isOver run = true ->
      Worked c { c with task := some { task with stage := .idle } }

theorem worked_begins (r : Reconciler) (task : RecurringTask) (notes : List Note) (now : Time) :
    Worked ⟨some r, some task, notes⟩ (work ⟨some r, some task, notes⟩ (.begins now)) := by
  unfold work RecurringTask.tick
  dsimp only
  split
  · rename_i hidle
    split
    · exact Worked.begins now rfl rfl hidle
    · dsimp only
      rw [List.map_nil, List.append_nil]
      exact Worked.rests
  · dsimp only
    rw [List.map_nil, List.append_nil]
    exact Worked.rests

theorem worked_grant (htask : c.task = some task) (hr : c.reconciler = some r) :
    Worked c (c.grant task r) := by
  unfold grant
  split
  · exact Worked.granted htask hr
  · exact Worked.rests

theorem worked_tell (htask : c.task = some task) (hr : c.reconciler = some r)
    (answer : Except ClusterError (List Address)) : Worked c (c.tell task r answer) := by
  unfold tell
  split
  · rename_i run hrunning
    split
    · rename_i hquerying
      exact Worked.told answer htask hr hrunning hquerying
    · exact Worked.rests
  · exact Worked.rests

theorem worked_hear (htask : c.task = some task) (hr : c.reconciler = some r) (attempt : Nat)
    (answer : Except ClusterError Channel) : Worked c (c.hear task r attempt answer) := by
  unfold hear
  split
  · rename_i run hrunning
    exact Worked.heard attempt answer htask hr hrunning
  · exact Worked.rests

theorem worked_settles (r : Reconciler) (task : RecurringTask) (notes : List Note) :
    Worked ⟨some r, some task, notes⟩ (work ⟨some r, some task, notes⟩ .settles) := by
  unfold work RecurringTask.settle
  dsimp only
  split
  · rename_i run hrunning
    split
    · rename_i hover
      exact Worked.settles rfl rfl hrunning hover
    · exact Worked.rests
  · exact Worked.rests

theorem worked_work (c : Charge) (w : Work) : Worked c (c.work w) := by
  rcases c with ⟨_ | r, _ | task, notes⟩
  · exact Worked.rests
  · exact Worked.rests
  · exact Worked.rests
  · cases w with
    | begins now => exact worked_begins r task notes now
    | granted => exact worked_grant rfl rfl
    | told answer => exact worked_tell rfl rfl answer
    | heard attempt answer => exact worked_hear rfl rfl attempt answer
    | settles => exact worked_settles r task notes

end Charge

/-!
## Who the node takes itself for

A peer that is this node has its registered address. What a run reports is the status of a list, or
the error of its query.
-/

namespace Directory

variable {d : Directory} {selfAddress : Option Address}

def HasLocal (d : Directory) (ids : List PeerId) : Prop :=
  exists n p, n ∈ ids ∧ d.peer? n = some p ∧ p.isSelf = true

def Knows (d : Directory) (selfAddress : Option Address) : Prop :=
  forall n p, d.peer? n = some p -> p.isSelf = true ->
    selfAddress.map Address.key = some p.address.key

theorem Knows.modify (h : d.Knows selfAddress) (id : PeerId) {f : Peer -> Peer}
    (hf : forall p : Peer, p.LeadsTo (f p)) : (d.modify id f).Knows selfAddress := by
  intro n q hq hself
  rcases exists_of_peer?_modify hq with ⟨p, hp, rfl | rfl⟩
  · exact h n q hp hself
  · rw [(hf p).left]
    exact h n p hp ((hf p).isSelf_eq ▸ hself)

theorem Knows.closeAll (h : d.Knows selfAddress) (ids : List PeerId) :
    (Reconciler.closeAll d ids).Knows selfAddress := by
  induction ids generalizing d with
  | nil => exact h
  | cons id rest ih => exact ih (h.modify id Peer.leadsTo_close)

end Directory

/-- A list has this node in it exactly when the answer has that it stands for. -/
theorem Topology.Lists.hasLocal_iff {d : Directory} {ids : List PeerId}
    {selfAddress : Option Address} {queried : List Address}
    (h : Lists d ids (normalize selfAddress queried)) :
    d.HasLocal ids <-> exists key, selfAddress.map Address.key = some key ∧
      key ∈ queried.map Address.key := by
  constructor
  · rintro ⟨n, p, hn, hp, hself⟩
    rcases exists_of_mem_left h hn with ⟨a, ha, q, hq, hstands⟩
    cases hp.symm.trans hq
    rcases (stands_iff p a).mp hstands with ⟨_, hmark⟩
    refine ⟨a.key, ?_, ?_⟩
    · rw [← isRegistered_iff, ← isSelf_of_mem_normalize ha, ← hmark]
      exact hself
    · rw [← mem_key_normalize selfAddress]
      exact List.mem_map.mpr ⟨a, ha, rfl⟩
  · rintro ⟨key, hself, hkey⟩
    rw [← mem_key_normalize selfAddress] at hkey
    rcases List.mem_map.mp hkey with ⟨a, ha, rfl⟩
    rcases exists_of_mem_left h.flip ha with ⟨n, hn, p, hp, hstands⟩
    rcases (stands_iff p a).mp hstands with ⟨_, hmark⟩
    refine ⟨n, p, hn, hp, ?_⟩
    rw [hmark, isSelf_of_mem_normalize ha, isRegistered_iff]
    exact hself

namespace Reconciler

variable {r r' : Reconciler} {id : RunId} {event : Event} {effects : List Effect}
  {current : List PeerId} {plan : Plan} {d : Directory}

theorem knows_staged (h : r.directory.Knows r.selfAddress)
    (hknown : forall id, id ∈ r.directory.published -> id < r.directory.peers.length)
    (queried : List Address) : (r.staged queried).Knows r.selfAddress := by
  by_cases hconfirms : r.confirms queried = true
  · rw [staged_of_confirms hconfirms]
    exact h
  · rw [staged_of_not_confirms hknown hconfirms]
    intro n p hp hself
    rcases Directory.peer?_append_eq_some hp with hold | hnew
    · exact h n p hold hself
    · rcases List.mem_map.mp hnew with ⟨a, ha, rfl⟩
      have hmem := List.mem_of_mem_filter ha
      rw [Peer.key_ofAddress, ← Topology.isRegistered_iff,
        ← Topology.isSelf_of_mem_normalize hmem, ← Peer.isSelf_ofAddress]
      exact hself

theorem Opening.knows (h : Opening r id event current plan d effects)
    (hknows : r.directory.Knows r.selfAddress)
    (hknown : forall id, id ∈ r.directory.published -> id < r.directory.peers.length) :
    d.Knows r.selfAddress := by
  cases h with
  | told queried _ => exact knows_staged hknows hknown queried
  | heard attempt answer _ _ =>
      exact hknows.modify _ fun p => Peer.leadsTo_finishConnect p answer

theorem Turn.knows (h : Turn r id event r' effects) (hknows : r.directory.Knows r.selfAddress)
    (hknown : forall id, id ∈ r.directory.published -> id < r.directory.peers.length) :
    r'.directory.Knows r.selfAddress := by
  cases h with
  | rests _ => exact hknows
  | enters kind _ => exact (idle_begin r kind).directory ▸ hknows
  | starts rest _ _ => exact hknows
  | fails e _ => exact (directory_conclude r id _).symm ▸ hknows
  | goes d hopening _ _ => exact hopening.knows hknows hknown
  | @ends _ current plan d _ attempts hopening =>
      have hopened := hopening.knows hknows hknown
      rw [complete_eq, directory_conclude]
      cases plan with
      | keep => exact hopened
      | replace next created kept =>
          have hpublished : (d.publish next).Knows r.selfAddress := hopened
          exact hpublished.closeAll _
  | leaves _ _ => exact (idle_abandon r id).directory ▸ hknows

theorem exists_eq_report_of_mem_complete {attempts : List Attempt} {report : HealthReport}
    (hmem : Effect.health report ∈ (r.complete id current plan attempts).2) :
    exists peers, report = (r.check peers).report := by
  rw [complete_eq] at hmem
  rcases List.mem_append.mp hmem with hbefore | hreport
  · exfalso
    rcases List.mem_append.mp hbefore with hwarning | hcommit
    · rcases List.mem_filterMap.mp hwarning with ⟨a, _, ha⟩
      unfold Attempt.warning? at ha
      split at ha
      · cases ha
      · cases ha
    · cases isCommit_of_mem_commits hcommit
  · unfold succeed at hreport
    split at hreport
    · cases hreport
    · have hcheck : (r.carriedOut current plan).check = r.check := by
        cases plan with
        | keep => rfl
        | replace next created kept => rfl
      rw [hcheck] at hreport
      cases List.mem_singleton.mp hreport
      exact ⟨_, rfl⟩

theorem eq_report_of_mem_fail {e : ClusterError} {report : HealthReport}
    (hmem : Effect.health report ∈ (r.fail id e).2) : report = .unhealthy e.message := by
  rw [fail_snd] at hmem
  unfold failure at hmem
  cases hkind : r.kindOf id with
  | bare =>
      rw [hkind] at hmem
      cases hmem
  | serial =>
      rw [hkind] at hmem
      simpa using hmem

/-- What a run reports: the status of a list, or the error of its query. -/
theorem Turn.health_cases (h : Turn r id event r' effects) {report : HealthReport}
    (hmem : Effect.health report ∈ effects) :
    (exists peers, report = (r.check peers).report) ∨
      exists e : ClusterError, report = .unhealthy e.message := by
  cases h with
  | rests _ => cases hmem
  | enters kind _ =>
      cases kind with
      | serial => cases hmem
      | bare => cases List.mem_singleton.mp hmem
  | starts _ _ _ => cases List.mem_singleton.mp hmem
  | fails e _ => exact Or.inr ⟨e, eq_report_of_mem_fail hmem⟩
  | goes d hopening _ hmore =>
      exfalso
      rcases List.mem_append.mp hmem with hopened | hasked
      · exact hopening.tentative _ hopened
      · rcases hmore with rfl | ⟨peers, rfl, _⟩
        · cases hasked
        · rcases exists_of_mem_asks hasked with ⟨_, _, _, _, _, he⟩
          cases he
  | ends d attempts hopening =>
      rcases List.mem_append.mp hmem with hopened | hcomplete
      · exact (hopening.tentative _ hopened).elim
      · left
        have hreport := exists_eq_report_of_mem_complete (r := { r with directory := d }) hcomplete
        exact hreport
  | leaves _ _ => cases hmem

end Reconciler

/-!
## What stays true from step to step

A run that connects or publishes has a list for what it was told of last, and all reports come from
the check or from an error. The run of the task takes turns with the task itself, which begins runs
and rests between them, and the stop of the task drops the run that goes on.
-/

/-- The answer that a run has been told of last. -/
def LastTold (notes : List Note) (id : RunId) (queried : List Address) : Prop :=
  exists before since, notes = before ++ Note.told id (.ok queried) :: since ∧
    forall id answer, Note.told id answer ∉ since

theorem LastTold.did {notes : List Note} {id : RunId} {queried : List Address}
    (h : LastTold notes id queried) {more : List Note} {effects : List Effect}
    (hmore : more <+: effects.map Note.did) : LastTold (notes ++ more) id queried := by
  rcases h with ⟨before, since, rfl, hsince⟩
  refine ⟨before, since ++ more, List.append_assoc _ _ _, ?_⟩
  intro other answer hmem
  rcases List.mem_append.mp hmem with hold | hnew
  · exact hsince other answer hold
  · rcases List.mem_map.mp (hmore.subset hnew) with ⟨e, _, he⟩
    cases he

theorem append_cases {α : Type} {first second before after : List α} {x : α}
    (h : first ++ second = before ++ x :: after) :
    (exists rest, first = before ++ x :: rest) ∨
      exists more, before = first ++ more ∧ second = more ++ x :: after := by
  rcases List.append_eq_append_iff.mp h with ⟨more, hbefore, hsecond⟩ | ⟨more, hfirst, hafter⟩
  · exact Or.inr ⟨more, hbefore, hsecond⟩
  · cases more with
    | nil => exact Or.inr ⟨[], by simpa using hfirst.symm, hafter.symm⟩
    | cons y rest =>
        cases List.head_eq_of_cons_eq hafter
        exact Or.inl ⟨rest, hfirst⟩

/-- What is known of a reconciler whose runs come from one task alone: which of them goes on, what
it will publish, and how what is noted has come about. -/
structure Steady (selfAddress : Option Address) (check : HealthCheck) (stage : TaskStage)
    (r : Reconciler) (notes : List Note) : Prop where
  locked : r.Locked
  rooted : r.Rooted
  addressed : r.selfAddress = selfAddress
  checked : r.check = check
  knows : r.directory.Knows selfAddress
  alone : forall id s, r.stage? id = some s -> s.isOver = true ∨ stage = .running id
  planned : forall id current plan attempts,
    r.stage? id = some (.connecting current plan attempts) ->
      exists queried, LastTold notes id queried ∧
        plan.Lists r.directory (Topology.normalize selfAddress queried)
  published : forall before since next,
    notes = before ++ Note.did (.published next) :: since ->
      exists id queried, LastTold before id queried ∧
        Topology.Lists r.directory next (Topology.normalize selfAddress queried)
  reports : forall report, Note.did (.health report) ∈ notes ->
    (exists peers, report = (check peers).report) ∨
      exists e : ClusterError, report = .unhealthy e.message

namespace Steady

open Reconciler

variable {selfAddress : Option Address} {check : HealthCheck} {stage : TaskStage}
  {r r' : Reconciler} {notes : List Note} {id : RunId} {event : Event} {effects : List Effect}
  {current : List PeerId} {plan : Plan} {d : Directory}

theorem running (h : Steady selfAddress check stage r notes) {s : RunStage}
    (hs : r.stage? id = some s) (hgoing : s.isOver = false) : stage = .running id := by
  rcases h.alone id s hs with hover | hrunning
  · rw [hgoing] at hover
    cases hover
  · exact hrunning

theorem opened (h : Steady selfAddress check stage r notes)
    (htold : forall queried, event = .answered id (.ok queried) -> LastTold notes id queried)
    (hopening : Opening r id event current plan d effects) :
    exists queried, LastTold notes id queried ∧
      plan.Lists d (Topology.normalize selfAddress queried) := by
  have hknown := h.rooted.known
  have hgrows := hopening.grows hknown
  have hpublished := hopening.published_eq hknown
  cases hopening with
  | told queried _ =>
      refine ⟨queried, htold queried rfl, ?_⟩
      rw [← h.addressed]
      exact decision_lists hknown queried
  | heard attempt answer hs _ =>
      rcases h.planned id _ _ _ hs with ⟨queried, hlast, hlists⟩
      exact ⟨queried, hlast, hlists.grows hgrows hpublished⟩

theorem planned_turn (h : Steady selfAddress check (.running id) r notes)
    (hturn : Turn r id event r' effects)
    (htold : forall queried, event = .answered id (.ok queried) -> LastTold notes id queried)
    {other : RunId} {attempts : List Attempt}
    (hs : r'.stage? other = some (.connecting current plan attempts)) :
    exists queried, LastTold (notes ++ effects.map Note.did) other queried ∧
      plan.Lists r'.directory (Topology.normalize selfAddress queried) := by
  by_cases hid : id = other
  · subst hid
    cases hturn with
    | rests _ =>
        rw [List.map_nil, List.append_nil]
        exact h.planned id current plan attempts hs
    | enters kind hid =>
        rw [stage?_begin, if_pos hid.symm] at hs
        cases kind with
        | serial => cases hs
        | bare => cases hs
    | starts rest _ _ => cases eq_of_stage?_setStage_self hs
    | fails e _ =>
        rw [stage?_conclude] at hs
        cases eq_of_stage?_setStage_self hs
    | goes d hopening _ _ =>
        cases eq_of_stage?_setStage_self hs
        rcases h.opened htold hopening with ⟨queried, hlast, hlists⟩
        exact ⟨queried, hlast.did (List.prefix_refl _), hlists⟩
    | ends d _ hopening =>
        rw [stage?_complete] at hs
        cases eq_of_stage?_setStage_self hs
    | leaves ht hgoing => cases (stage?_abandon_self ht hgoing).symm.trans hs
  · rw [hturn.stage?_eq hid] at hs
    exact absurd (TaskStage.running.inj (h.running hs rfl)) hid

theorem published_turn (h : Steady selfAddress check (.running id) r notes)
    (hturn : Turn r id event r' effects)
    (htold : forall queried, event = .answered id (.ok queried) -> LastTold notes id queried)
    {before since : List Note} {next : List PeerId}
    (hsplit : notes ++ effects.map Note.did = before ++ Note.did (.published next) :: since) :
    exists other queried, LastTold before other queried ∧
      Topology.Lists r'.directory next (Topology.normalize selfAddress queried) := by
  have hgrows : r.directory.Grows r'.directory := by
    rw [← hturn.replay_eq h.rooted.known]
    exact Directory.grows_replay _ _
  rcases append_cases hsplit with ⟨rest, hold⟩ | ⟨more, rfl, hnew⟩
  · rcases h.published before rest next hold with ⟨other, queried, hlast, hlists⟩
    exact ⟨other, queried, hlast, hlists.grows hgrows⟩
  · have hmem : Note.did (.published next) ∈ effects.map Note.did := by
      rw [hnew]
      exact List.mem_append_right _ List.mem_cons_self
    rcases List.mem_map.mp hmem with ⟨e, he, heq⟩
    cases heq
    rcases hturn.exists_finishes he with ⟨_, _, _, d, _, _, hopening, rfl, _⟩
    rcases h.opened htold hopening with ⟨queried, hlast, hlists⟩
    have hdid : more <+: effects.map Note.did := hnew ▸ List.prefix_append _ _
    have hnext : Topology.Lists d next (Topology.normalize selfAddress queried) := hlists
    have hgrown := grows_complete { r with directory := d } id
    exact ⟨id, queried, hlast.did hdid, hnext.grows (hgrown _ _ _)⟩

theorem turn (h : Steady selfAddress check (.running id) r notes)
    (hturn : Turn r id event r' effects) (hlocked : r'.Locked) (hrooted : r'.Rooted)
    (htold : forall queried, event = .answered id (.ok queried) -> LastTold notes id queried) :
    Steady selfAddress check (.running id) r' (notes ++ effects.map Note.did) := by
  constructor
  · exact hlocked
  · exact hrooted
  · exact hturn.selfAddress_eq.trans h.addressed
  · exact (congrArg Prod.snd hturn.settings_eq).trans h.checked
  · have hknows := h.knows
    rw [← h.addressed] at hknows ⊢
    exact hturn.selfAddress_eq ▸ hturn.knows hknows h.rooted.known
  · intro other s hs
    by_cases hid : id = other
    · exact Or.inr (congrArg TaskStage.running hid)
    · rw [hturn.stage?_eq hid] at hs
      exact h.alone other s hs
  · intro other current plan attempts hs
    exact h.planned_turn hturn htold hs
  · intro before since next hsplit
    exact h.published_turn hturn htold hsplit
  · intro report hmem
    rcases List.mem_append.mp hmem with hold | hnew
    · exact h.reports report hold
    · rcases List.mem_map.mp hnew with ⟨e, he, heq⟩
      cases heq
      rw [← h.checked]
      exact hturn.health_cases he

theorem start (internalAddress : Option Address) (hnotes : forall e, Note.did e ∉ notes) :
    Steady selfAddress check .idle { create internalAddress check with selfAddress } notes := by
  have hlocked := locked_create internalAddress check
  have hrooted := rooted_create internalAddress check
  have hnone : forall id : RunId,
      { create internalAddress check with selfAddress }.stage? id = none := fun _ => rfl
  constructor
  · exact ⟨hlocked.single, hlocked.queued, hlocked.nodup⟩
  · exact hrooted.idle ⟨rfl, fun _ _ _ _ h => h⟩
  · rfl
  · rfl
  · intro n p hp
    cases hp
  · intro id s hs
    cases (hnone id).symm.trans hs
  · intro id current plan attempts hs
    cases (hnone id).symm.trans hs
  · intro before since next hsplit
    exfalso
    apply hnotes (.published next)
    rw [hsplit]
    exact List.mem_append_right _ List.mem_cons_self
  · intro report hmem
    exact absurd hmem (hnotes _)

theorem tell (h : Steady selfAddress check (.running id) r notes)
    (hs : r.stage? id = some .querying) (answer : Except ClusterError (List Address)) :
    Steady selfAddress check (.running id) r (notes ++ [Note.told id answer]) := by
  refine ⟨h.locked, h.rooted, h.addressed, h.checked, h.knows, h.alone, ?_, ?_, ?_⟩
  · intro other current plan attempts hother
    cases h.running hother rfl
    cases hs.symm.trans hother
  · intro before since next hsplit
    rcases append_cases hsplit with ⟨rest, hold⟩ | ⟨more, _, hnew⟩
    · exact h.published before rest next hold
    · have hmem : Note.did (.published next) ∈ [Note.told id answer] := by
        rw [hnew]
        exact List.mem_append_right _ List.mem_cons_self
      cases List.mem_singleton.mp hmem
  · intro report hmem
    rcases List.mem_append.mp hmem with hold | hnew
    · exact h.reports report hold
    · cases List.mem_singleton.mp hnew

theorem step (h : Steady selfAddress check (.running id) r notes)
    (howner : r.owner? event = some id)
    (htold : forall queried, event = .answered id (.ok queried) -> LastTold notes id queried) :
    Steady selfAddress check (.running id) (r.step event).1
      (notes ++ (r.step event).2.map Note.did) :=
  h.turn (turn_step howner) (h.locked.step event) (h.rooted.step event) htold

theorem restage (h : Steady selfAddress check stage r notes)
    (hrests : forall id, stage ≠ .running id) (stage' : TaskStage) :
    Steady selfAddress check stage' r notes := by
  refine ⟨h.locked, h.rooted, h.addressed, h.checked, h.knows, ?_, h.planned, h.published,
    h.reports⟩
  intro id s hs
  rcases h.alone id s hs with hover | hrunning
  · exact Or.inl hover
  · exact absurd hrunning (hrests id)

theorem rests (h : Steady selfAddress check (.running id) r notes) (hover : r.isOver id = true) :
    Steady selfAddress check .idle r notes := by
  refine ⟨h.locked, h.rooted, h.addressed, h.checked, h.knows, ?_, h.planned, h.published,
    h.reports⟩
  intro other s hs
  rcases h.alone other s hs with hover' | hrunning
  · exact Or.inl hover'
  · cases hrunning
    exact Or.inl ((isOver_eq hs).symm.trans hover)

end Steady

namespace Charge

open Reconciler

variable {selfAddress : Option Address} {check : HealthCheck} {c c' : Charge}

def stage (c : Charge) : TaskStage :=
  match c.task with
  | some task => task.stage
  | none => .idle

/-- What is known of a node that takes itself for this address. -/
structure Kept (selfAddress : Option Address) (check : HealthCheck) (c : Charge) : Prop where
  unborn : c.reconciler = none -> c.task = none ∧ forall e, Note.did e ∉ c.notes
  steady : forall r, c.reconciler = some r -> Steady selfAddress check c.stage r c.notes

theorem Kept.of_steady {r : Reconciler} (hr : c.reconciler = some r)
    (h : Steady selfAddress check c.stage r c.notes) : c.Kept selfAddress check := by
  constructor
  · intro hnone
    cases hr.symm.trans hnone
  · intro r' hr'
    cases hr.symm.trans hr'
    exact h

theorem stage_eq {task : RecurringTask} (h : c.task = some task) : c.stage = task.stage := by
  unfold stage
  rw [h]

theorem Worked.kept (h : Worked c c') (hkept : c.Kept selfAddress check) :
    c'.Kept selfAddress check := by
  cases h with
  | rests => exact hkept
  | @begins now task r htask hr hidle =>
      have hsteady := hkept.steady r hr
      rw [stage_eq htask, hidle] at hsteady
      exact Kept.of_steady rfl
        ((hsteady.restage (fun _ h => nomatch h) _).step rfl fun _ h => nomatch h)
  | @granted task r htask hr =>
      have hsteady := hkept.steady r hr
      refine Kept.of_steady rfl ?_
      show Steady selfAddress check c.stage (r.step .granted).1
        (c.notes ++ (r.step .granted).2.map Note.did)
      cases hnext : r.nextInLine? with
      | none =>
          have hgrant : r.step .granted = (r, []) := grant_of_nextInLine?_eq_none hnext
          rw [hgrant, List.map_nil, List.append_nil]
          exact hsteady
      | some id =>
          have hwaits : r.stage? id = some .waiting := by
            unfold nextInLine? at hnext
            split at hnext
            · exact hsteady.locked.queued id (List.mem_of_head? hnext)
            · cases hnext
          have hrunning := hsteady.running hwaits rfl
          rw [hrunning] at hsteady ⊢
          exact hsteady.step hnext fun _ h => nomatch h
  | @told answer task r run htask hr hrunning hquerying =>
      have hsteady := hkept.steady r hr
      rw [stage_eq htask, hrunning] at hsteady
      refine Kept.of_steady rfl ?_
      show Steady selfAddress check c.stage (r.step (.answered run answer)).1
        ((c.notes ++ [Note.told run answer]) ++ (r.step (.answered run answer)).2.map Note.did)
      rw [stage_eq htask, hrunning]
      refine (hsteady.tell hquerying answer).step rfl ?_
      rintro queried ⟨⟩
      exact ⟨c.notes, [], rfl, fun _ _ => List.not_mem_nil⟩
  | @heard attempt answer task r run htask hr hrunning =>
      have hsteady := hkept.steady r hr
      rw [stage_eq htask, hrunning] at hsteady
      refine Kept.of_steady rfl ?_
      show Steady selfAddress check c.stage (r.step (.replied run attempt answer)).1
        (c.notes ++ (r.step (.replied run attempt answer)).2.map Note.did)
      rw [stage_eq htask, hrunning]
      exact hsteady.step rfl fun _ h => nomatch h
  | @settles task r run htask hr hrunning hover =>
      have hsteady := hkept.steady r hr
      rw [stage_eq htask, hrunning] at hsteady
      exact Kept.of_steady hr (hsteady.rests hover)

theorem Kept.after (h : c.Kept selfAddress check) (works : List Work) :
    (c.after works).Kept selfAddress check := by
  induction works generalizing c with
  | nil => exact h
  | cons w rest ih => exact ih ((worked_work c w).kept h)

theorem isOver_abandon (r : Reconciler) (id : RunId) : (r.abandon id).isOver id = true := by
  cases hover : r.isOver id with
  | true =>
      have hsame : r.abandon id = r := if_pos hover
      rw [hsame]
      exact hover
  | false =>
      cases hs : r.stage? id with
      | none =>
          rw [isOver, hs] at hover
          cases hover
      | some s =>
          rw [isOver_eq (stage?_abandon_self hs ((isOver_eq hs).symm.trans hover))]
          rfl

theorem Kept.stopped (h : c.Kept selfAddress check) : c.stopped.Kept selfAddress check := by
  rcases c with ⟨_ | r, _ | task, notes⟩
  · exact h
  · cases (h.unborn rfl).left
  · exact h
  · have hsteady := h.steady r rfl
    have hstage : Charge.stage ⟨some r, some task, notes⟩ = task.stage := rfl
    rw [hstage] at hsteady
    refine Kept.of_steady rfl ?_
    show Steady selfAddress check .ended (task.stop r).2 notes
    unfold RecurringTask.stop
    cases hrunning : task.stage with
    | running id =>
        rw [hrunning] at hsteady
        have howner : r.owner? (.dropped id) = some id := rfl
        have hdropped := hsteady.step howner fun _ h => nomatch h
        have hnothing : (r.step (.dropped id)).2 = [] := rfl
        rw [hnothing, List.map_nil, List.append_nil] at hdropped
        exact (hdropped.rests (isOver_abandon r id)).restage (fun _ h => nomatch h) .ended
    | idle =>
        rw [hrunning] at hsteady
        exact hsteady.restage (fun _ h => nomatch h) .ended
    | ended =>
        rw [hrunning] at hsteady
        exact hsteady

end Charge

end ClusterNode
