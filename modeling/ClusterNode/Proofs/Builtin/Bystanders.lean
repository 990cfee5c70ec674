import ClusterNode.Builtin.Catalog
import ClusterNode.Proofs.Builtin.Work
import ClusterNode.Proofs.Reconciler.Stop

/-!
# Modules beside the core module

A membership may write down what it is told about this node; what it answers and how it goes on are
not changed by that. Of the built-in modules only the core module registers the node and sets up its
reconciler and its task. While a hook of another module runs, the task may go on with its work, and
that is all that becomes of these.
-/

namespace ClusterNode

/-!
## What is written down

A node is kept together with what is written down about it, and that can be forgotten again. A
registration is written down with its answer, whatever the membership answers.
-/

section Recorded

variable {β : Type}

def MembershipSource.recorded (source : MembershipSource β) : MembershipSource (β × List Note) where
  query members :=
    let (next, answer, signals) := source.query members.1
    ((next, members.2), answer, signals)
  register members address :=
    let (next, answer, signals) := source.register members.1 address
    ((next, members.2 ++ [Note.registered address answer]), answer, signals)

def Surroundings.recorded (s : Surroundings β) : Surroundings (β × List Note) :=
  { source := s.source.recorded
    machineHost := s.machineHost
    listen := s.listen
    connect := s.connect }

namespace Node

def charge (node : Node (β × List Note)) : Charge :=
  { reconciler := node.reconciler, task := node.task, notes := node.members.2 }

def forget (node : Node (β × List Note)) : Node β :=
  { members := node.members.1
    reconciler := node.reconciler
    task := node.task
    signals := node.signals }

def keeping (notes : List Note) (node : Node β) : Node (β × List Note) :=
  { members := (node.members, notes)
    reconciler := node.reconciler
    task := node.task
    signals := node.signals }

theorem charge_stopTask (node : Node (β × List Note)) :
    node.stopTask.charge = node.charge.stopped := by
  rcases node with ⟨_, _ | r, _ | task, _⟩
  · rfl
  · rfl
  · rfl
  · rfl

theorem exists_answer_of_register (s : Surroundings β) (node : Node (β × List Note))
    (r : Reconciler) (address : Address) :
    exists answer, (node.register s.recorded r address).1.charge =
        { node.charge with
          notes := node.charge.notes ++ [Note.registered (r.announced address) answer] } ∧
      (node.register s.recorded r address).2 =
        answer.map fun _ => (r.registered (r.announced address) answer).1 :=
  ⟨(s.source.register node.members.1 (r.announced address)).2.1, rfl, rfl⟩

end Node

end Recorded

/-!
## The tick of a node

A tick takes a run from its beginning to its end at once; it does nothing unless a run is due. The
run asks in its own name, and the connectors answer one after the other, so a tick comes to as many
steps of the task.
-/

theorem Reconciler.Turn.run_eq_of_ask {r r' : Reconciler} {id : RunId} {event : Event}
    {effects : List Effect} (h : Turn r id event r' effects) {run : RunId} {attempt : Nat}
    {peer : PeerId} {address : Address} (hmem : Effect.ask run attempt peer address ∈ effects) :
    run = id := by
  have hopened : forall {current plan d opening}, Opening r id event current plan d opening ->
      Effect.ask run attempt peer address ∉ opening := by
    intro current plan d opening hopening hask
    cases hopening with
    | told queried _ =>
        unfold prelude sizeOf sizeGauge at hask
        split at hask
        · cases List.mem_singleton.mp hask
        · rcases List.mem_cons.mp hask with hsize | hcreated
          · cases hsize
          · cases List.mem_singleton.mp hcreated
    | heard _ _ _ _ => cases List.mem_singleton.mp hask
  cases h with
  | rests _ => cases hmem
  | enters kind _ => exact (isNotice_begin r kind _ hmem).elim
  | starts _ _ _ => cases List.mem_singleton.mp hmem
  | fails e _ => exact (isNotice_fail r id e _ hmem).elim
  | goes d hopening _ hmore =>
      rcases List.mem_append.mp hmem with hbefore | hasked
      · exact absurd hbefore (hopened hopening)
      · rcases hmore with rfl | ⟨peers, rfl, _⟩
        · cases hasked
        · rcases exists_of_mem_asks hasked with ⟨_, _, _, _, _, heq⟩
          cases heq
          rfl
  | ends d attempts hopening =>
      rcases List.mem_append.mp hmem with hbefore | hcomplete
      · exact absurd hbefore (hopened hopening)
      · rw [complete_eq] at hcomplete
        rcases List.mem_append.mp hcomplete with hbefore | hreport
        · rcases List.mem_append.mp hbefore with hwarning | hcommit
          · exact (isNotice_warnings _ _ _ hwarning).elim
          · cases isCommit_of_mem_commits hcommit
        · exact (isNotice_succeed _ _ _ _ hreport).elim
  | leaves _ _ => cases hmem

def Note.shown : Note -> List Signal
  | did e => e.shown "cluster"
  | _ => []

theorem flatMap_shown_did (effects : List Effect) :
    (effects.map Note.did).flatMap Note.shown = effects.flatMap (Effect.shown "cluster") := by
  rw [List.flatMap_map]
  rfl

namespace Charge

open Reconciler

variable {task : RecurringTask} {id : RunId}

theorem exists_after_replies (hrunning : task.stage = .running id)
    (connector : PeerId -> Address -> Except ClusterError Channel) {effects : List Effect}
    (hasks : forall run attempt peer address,
      Effect.ask run attempt peer address ∈ effects -> run = id)
    (r : Reconciler) (notes : List Note) :
    exists works, after ⟨some r, some task, notes⟩ works =
      ⟨some (replyAll connector r effects).1, some task,
        notes ++ (replyAll connector r effects).2.map Note.did⟩ := by
  induction effects generalizing r notes with
  | nil => exact ⟨[], by rw [replyAll, List.map_nil, List.append_nil]; rfl⟩
  | cons e rest ih =>
      have ih' := ih fun run attempt peer address hmem =>
        hasks run attempt peer address (List.mem_cons_of_mem e hmem)
      cases e with
      | ask run attempt peer address =>
          cases hasks run attempt peer address List.mem_cons_self
          rcases ih' (r.reply id attempt (connector peer address)).1
            (notes ++ (r.reply id attempt (connector peer address)).2.map Note.did) with
            ⟨works, hworks⟩
          have hheard : work ⟨some r, some task, notes⟩
              (.heard attempt (connector peer address)) =
              ⟨some (r.reply id attempt (connector peer address)).1, some task,
                notes ++ (r.reply id attempt (connector peer address)).2.map Note.did⟩ := by
            simp only [work, hear, hrunning]
            rfl
          refine ⟨.heard attempt (connector peer address) :: works, ?_⟩
          show (work ⟨some r, some task, notes⟩ _).after works = _
          rw [hheard, hworks, List.append_assoc, ← List.map_append]
          rfl
      | _ => exact ih' r notes

theorem exists_work_told (hrunning : task.stage = .running id) (r : Reconciler)
    (notes : List Note) (answer : Except ClusterError (List Address)) :
    exists told, work ⟨some r, some task, notes⟩ (.told answer) =
      ⟨some (r.answer id answer).1, some task,
        notes ++ told ++ (r.answer id answer).2.map Note.did⟩ ∧
      told.flatMap Note.shown = [] := by
  by_cases hs : r.stage? id = some .querying
  · refine ⟨[Note.told id answer], ?_, rfl⟩
    simp only [work, tell, hrunning, hs]
    rfl
  · refine ⟨[], ?_, rfl⟩
    rw [answer_of_not_querying hs, List.map_nil, List.append_nil, List.append_nil]
    simp only [work, tell, hrunning]

end Charge

namespace Node

variable {β : Type} {node : Node β} {task : RecurringTask} {r : Reconciler}

/-- A tick does nothing unless a run is due. -/
theorem tick_eq_or_due (s : Surroundings β) (now : Time) (node : Node β) :
    node.tick s now = node ∨
      exists task r, node.task = some task ∧ node.reconciler = some r ∧ task.stage = .idle ∧
        task.pace.due ≤ now := by
  rcases node with ⟨members, _ | r, _ | task, signals⟩
  · exact Or.inl rfl
  · exact Or.inl rfl
  · exact Or.inl rfl
  · by_cases hdue : task.stage = .idle ∧ task.pace.due ≤ now
    · exact Or.inr ⟨task, r, rfl, rfl, hdue⟩
    · left
      have htick : task.tick now r = (task, r, []) := by
        unfold RecurringTask.tick
        split
        · rename_i hidle
          exact if_neg fun hle => hdue ⟨hidle, hle⟩
        · rfl
      unfold tick
      dsimp only
      rw [htick]
      exact if_pos rfl

theorem tick_of_due (htask : node.task = some task) (hr : node.reconciler = some r)
    (hidle : task.stage = .idle) {now : Time} (hdue : task.pace.due ≤ now) (s : Surroundings β) :
    node.tick s now =
      let (next, result) := node.query s
      let (last, effects) := (r.begin .serial).1.drive r.runs.length result s.connect
      { next with
        task := some (RecurringTask.settle
          { pace := task.pace.advance now, stage := .running r.runs.length } last)
        reconciler := some last }.noteEffects effects := by
  rcases node with ⟨members, reconciler, current, signals⟩
  cases htask
  cases hr
  have hnew : ¬(r.begin .serial).1.runs.length = r.runs.length := by
    simp [Reconciler.begin]
  unfold tick
  dsimp only
  rw [Ticker.tick_of_due hidle hdue]
  dsimp only
  rw [if_neg hnew]
  rfl

end Node

theorem Charge.exists_works_of_due {task : RecurringTask} {now : Time}
    (hidle : task.stage = .idle) (hdue : task.pace.due ≤ now) (r : Reconciler) (notes : List Note)
    (result : Except ClusterError (List Address))
    (connector : PeerId -> Address -> Except ClusterError Channel) :
    let (last, effects) := (r.begin .serial).1.drive r.runs.length result connector
    exists works since,
      after ⟨some r, some task, notes⟩ works =
        ⟨some last, some (RecurringTask.settle
          { pace := task.pace.advance now, stage := .running r.runs.length } last),
          notes ++ since⟩ ∧
      since.flatMap Note.shown = effects.flatMap (Effect.shown "cluster") := by
  let task' : RecurringTask :=
    { pace := task.pace.advance now, stage := .running r.runs.length }
  let granted := (r.begin .serial).1.grant
  let answered := granted.1.answer r.runs.length result
  let connected := Reconciler.replyAll connector answered.1 answered.2
  have hasks : forall run attempt peer address,
      Effect.ask run attempt peer address ∈ answered.2 -> run = r.runs.length :=
    fun _ _ _ _ hmem => (Reconciler.turn_answer _ _ _).run_eq_of_ask hmem
  have hbegins : work ⟨some r, some task, notes⟩ (.begins now) =
      ⟨some (r.begin .serial).1, some task', notes⟩ := by
    unfold work
    dsimp only
    rw [Ticker.tick_of_due hidle hdue]
    show Charge.mk _ _ (notes ++ []) = _
    rw [List.append_nil]
  have hrunning : task'.stage = .running r.runs.length := rfl
  rcases exists_work_told hrunning granted.1 (notes ++ granted.2.map Note.did) result with
    ⟨told, htold, hshown⟩
  rcases exists_after_replies hrunning connector hasks answered.1
    (notes ++ granted.2.map Note.did ++ told ++ answered.2.map Note.did) with ⟨works, hworks⟩
  refine ⟨.begins now :: .granted :: .told result :: (works ++ [.settles]),
    granted.2.map Note.did ++ told ++ answered.2.map Note.did ++ connected.2.map Note.did, ?_, ?_⟩
  · show (((work ⟨some r, some task, notes⟩ (.begins now)).work .granted).work
      (.told result)).after (works ++ [.settles]) = _
    rw [hbegins]
    show (work ⟨some granted.1, some task', notes ++ granted.2.map Note.did⟩
      (.told result)).after (works ++ [.settles]) = _
    rw [htold, after_append, hworks]
    simp only [List.append_assoc]
    rfl
  · show _ = (granted.2 ++ answered.2 ++ connected.2).flatMap (Effect.shown "cluster")
    simp only [List.flatMap_append, flatMap_shown_did, hshown, List.append_assoc, List.nil_append]

/-- A tick of a node is some steps of its task, and shows what is written down in them, after what
the membership itself shows. -/
def Node.TicksByWork {β : Type} (s : Surroundings β) (node : Node (β × List Note)) (now : Time) :
    Prop :=
  exists works since asked,
    node.charge.after works =
      ((node.forget.tick s now).keeping (node.members.2 ++ since)).charge ∧
    (node.forget.tick s now).signals = node.signals ++ asked ++ since.flatMap Note.shown ∧
    (asked = [] ∨ asked = (s.source.query node.members.1).2.2)

theorem Node.ticksByWork {β : Type} (s : Surroundings β) (node : Node (β × List Note))
    (now : Time) : node.TicksByWork s now := by
  rcases node.forget.tick_eq_or_due s now with hsame | ⟨task, r, htask, hr, hidle, hdue⟩
  · refine ⟨[], [], [], ?_, ?_, Or.inl rfl⟩
    · rw [hsame, List.append_nil]
      rfl
    · rw [hsame, List.flatMap_nil, List.append_nil, List.append_nil]
      rfl
  · have hcharge : node.charge = ⟨some r, some task, node.members.2⟩ := by
      unfold charge
      rw [← hr, ← htask]
      rfl
    rcases Charge.exists_works_of_due hidle hdue r node.members.2 (node.forget.query s).2
      s.connect with ⟨works, since, hworks, hshown⟩
    refine ⟨works, since, (s.source.query node.members.1).2.2, ?_, ?_, Or.inr rfl⟩
    · rw [hcharge, hworks, node.forget.tick_of_due htask hr hidle hdue]
      rfl
    · rw [hshown, tick_of_due htask hr hidle hdue]
      rfl

theorem Node.tick_of_still {β : Type} {node : Node (β × List Note)} (h : node.charge.Still)
    (s : Surroundings β) (now : Time) : node.forget.tick s now = node.forget := by
  rcases node.forget.tick_eq_or_due s now with hsame | ⟨task, r, htask, _, hidle, _⟩
  · exact hsame
  · cases hidle.symm.trans (h task htask)

/-!
## Providers with a record

A preparation may take place in another world. Whatever becomes of its registrations, the world is
as it was.
-/

namespace Preparation

variable {σ τ V : Type}

def map (f : σ -> τ) : Preparation σ V -> Preparation τ V
  | ended world outcome => ended (f world) outcome
  | register c v next => register c v fun answer => (next answer).map f

theorem run_map (f : σ -> τ) (p : Preparation σ V) (r : Registry V) :
    (p.map f).run r = ((p.run r).1, f (p.run r).2.1, (p.run r).2.2) := by
  induction p generalizing r with
  | ended world outcome => rfl
  | register c v next ih =>
      rw [map, run, run]
      split
      · rename_i r' _
        exact ih _ r'
      · exact ih _ r

theorem world_run_registerAll (world : σ) (outcome : Except Failure Unit)
    (services : List (Capability × V)) (r : Registry V) :
    ((registerAll world (.ended world outcome) services).run r).2.1 = world := by
  induction services generalizing r with
  | nil => rfl
  | cons service rest ih =>
      rcases service with ⟨c, v⟩
      rw [registerAll, run]
      split
      · rename_i r' _
        exact ih r'
      · rfl

end Preparation

section Bystanders

variable {β : Type}

def Provider.recorded (p : BuiltinProvider β) : BuiltinProvider (β × List Note) :=
  { name := p.name
    moduleName := p.moduleName
    requires := p.requires
    promises := p.promises
    prepare := fun registry node =>
      (p.prepare registry node.forget).map (Node.keeping node.members.2)
    start := fun view node =>
      let (next, outcome) := p.start view node.forget
      (next.keeping node.members.2, outcome)
    afterAllStarted := fun view node =>
      let (next, outcome) := p.afterAllStarted view node.forget
      (next.keeping node.members.2, outcome)
    stop := fun node =>
      let (next, outcome) := p.stop node.forget
      (next.keeping node.members.2, outcome) }

def Node.Spares (node next : Node β) : Prop :=
  next.reconciler = node.reconciler ∧ next.task = node.task

/-- A provider that leaves the reconciler and the task to others. -/
structure Provider.Modest (p : BuiltinProvider β) : Prop where
  prepare : forall registry (node : Node β),
    node.Spares ((p.prepare registry node).run registry).2.1
  start : forall view (node : Node β), node.Spares (p.start view node).1
  afterAllStarted : forall view (node : Node β), node.Spares (p.afterAllStarted view node).1
  stop : forall node : Node β, node.Spares (p.stop node).1

/-- A provider during whose hooks nothing happens to the reconciler, the task and the registration
of a node but some steps of the task. -/
structure Provider.Bystander (p : BuiltinProvider (β × List Note)) : Prop where
  prepare : forall registry (node : Node (β × List Note)), exists works,
    ((p.prepare registry node).run registry).2.1.charge = node.charge.after works
  start : forall view (node : Node (β × List Note)), exists works,
    (p.start view node).1.charge = node.charge.after works
  afterAllStarted : forall view (node : Node (β × List Note)), exists works,
    (p.afterAllStarted view node).1.charge = node.charge.after works
  stop : forall node : Node (β × List Note), exists works,
    (p.stop node).1.charge = node.charge.after works

theorem Node.Spares.charge {node : Node (β × List Note)} {next : Node β}
    (h : node.forget.Spares next) : (next.keeping node.members.2).charge = node.charge := by
  rcases h with ⟨hreconciler, htask⟩
  show Charge.mk next.reconciler next.task node.members.2 = _
  rw [hreconciler, htask]
  rfl

theorem Provider.Modest.bystander {p : BuiltinProvider β} (h : p.Modest) :
    p.recorded.Bystander := by
  constructor
  · intro registry node
    refine ⟨[], ?_⟩
    show (((p.prepare registry node.forget).map
      (Node.keeping node.members.2)).run registry).2.1.charge = node.charge
    rw [Preparation.run_map]
    exact (h.prepare registry node.forget).charge
  · intro view node
    exact ⟨[], (h.start view node.forget).charge⟩
  · intro view node
    exact ⟨[], (h.afterAllStarted view node.forget).charge⟩
  · intro node
    exact ⟨[], (h.stop node.forget).charge⟩

/-!
## The built-in modules
-/

theorem Node.Spares.refl (node : Node β) : node.Spares node := ⟨rfl, rfl⟩

theorem TelemetryModule.spares_offer (e : MetricsExporter) (registry : Registry Service)
    (node : Node β) : node.Spares ((offer e node).run registry).2.1 := by
  unfold offer
  rw [Preparation.world_run_registerAll]
  exact Node.Spares.refl node

theorem TelemetryModule.modest_none : (TelemetryModule.none : BuiltinProvider β).Modest :=
  ⟨spares_offer _, fun _ => Node.Spares.refl, fun _ => Node.Spares.refl, Node.Spares.refl⟩

theorem TelemetryModule.modest_prometheus (s : Surroundings β) (settings : ScrapeSettings) :
    (prometheus s settings).Modest := by
  refine ⟨?_, fun _ => Node.Spares.refl, fun _ => Node.Spares.refl, Node.Spares.refl⟩
  intro registry node
  show node.Spares ((preparePrometheus settings node).run registry).2.1
  unfold preparePrometheus
  split
  · exact Node.Spares.refl node
  · exact spares_offer _ registry node

theorem ClusterModule.spares_prepare (m : Membership) (registry : Registry Service)
    (node : Node Membership) : node.Spares ((prepare m node).run registry).2.1 := by
  unfold prepare
  rw [Preparation.world_run_registerAll]
  exact ⟨rfl, rfl⟩

theorem ClusterModule.modest_standalone : standalone.Modest :=
  ⟨spares_prepare _, fun _ => Node.Spares.refl, fun _ => Node.Spares.refl, Node.Spares.refl⟩

theorem ClusterModule.modest_fixed (s : Surroundings Membership) (m : FixedMembers) :
    (fixed s m).Modest := by
  refine ⟨spares_prepare _, ?_, fun _ => Node.Spares.refl, Node.Spares.refl⟩
  intro view node
  show node.Spares (startFixed s node).1
  have hquery : node.Spares (node.query s).1 := ⟨rfl, rfl⟩
  unfold startFixed
  split
  · rename_i h
    rw [h] at hquery
    exact hquery
  · rename_i h
    rw [h] at hquery
    exact hquery

end Bystanders

/-!
### Providers out of the catalog
-/

namespace Builtin

def BuildsModest (f : BuiltinFactory) : Prop :=
  forall {properties p}, f properties = .ok p -> p.Modest

theorem buildsModest_unconfigured {p : BuiltinProvider Membership} (h : p.Modest) :
    BuildsModest (unconfigured p) := by
  intro properties p' hbuilt
  cases hbuilt
  exact h

theorem buildsModest_configured {α : Type} {settings? : Value -> Except ConversionError α}
    {build : α -> BuiltinProvider Membership} (h : forall settings, (build settings).Modest) :
    BuildsModest (configured settings? build) := by
  intro properties p hbuilt
  unfold configured at hbuilt
  split at hbuilt
  · cases hbuilt
    exact h _
  · cases hbuilt

theorem mem_registerAll {moduleName : String} {factories : List (String × BuiltinFactory)}
    {c : Catalog (Node Membership) Service} {entry : (String × String) × BuiltinFactory}
    (h : entry ∈ (registerAll moduleName factories c).factories) :
    entry ∈ c.factories ∨ entry.1.1 = moduleName ∧ (entry.1.2, entry.2) ∈ factories := by
  induction factories generalizing c with
  | nil => exact Or.inl h
  | cons first rest ih =>
      rcases ih h with hregistered | ⟨hname, hmem⟩
      · rcases List.mem_append.mp hregistered with hbefore | hnew
        · exact Or.inl (List.mem_of_mem_filter hbefore)
        · cases List.mem_singleton.mp hnew
          exact Or.inr ⟨rfl, List.mem_cons_self⟩
      · exact Or.inr ⟨hname, List.mem_cons_of_mem first hmem⟩

theorem buildsModest_of_mem {s : Surroundings Membership}
    {entry : (String × String) × BuiltinFactory} (hmem : entry ∈ (catalog s).factories)
    (hother : entry.1.1 ≠ CoreModule.moduleName) : BuildsModest entry.2 := by
  rcases mem_registerAll hmem with hmem | ⟨hcore, _⟩
  · rcases mem_registerAll hmem with hmem | ⟨_, hcluster⟩
    · rcases mem_registerAll hmem with hnone | ⟨_, htelemetry⟩
      · cases hnone
      · rcases List.mem_pair.mp htelemetry with heq | heq
        · rw [(Prod.mk.inj heq).right]
          exact buildsModest_configured (TelemetryModule.modest_prometheus s)
        · rw [(Prod.mk.inj heq).right]
          exact buildsModest_unconfigured TelemetryModule.modest_none
    · rcases List.mem_pair.mp hcluster with heq | heq
      · rw [(Prod.mk.inj heq).right]
        exact buildsModest_unconfigured ClusterModule.modest_standalone
      · rw [(Prod.mk.inj heq).right]
        exact buildsModest_configured (ClusterModule.modest_fixed s)
  · exact absurd hcore hother

/-- Whatever is selected for another module, it leaves the reconciler to the core module. -/
theorem modest_of_create {s : Surroundings Membership} {moduleName name : String}
    {properties : Value} {p : BuiltinProvider Membership}
    (hmade : (catalog s).create moduleName name properties = .ok p)
    (hother : moduleName ≠ CoreModule.moduleName) : p.Modest := by
  unfold Catalog.create at hmade
  split at hmade
  · cases hmade
  · split at hmade
    · cases hmade
    · rename_i factory hfactory
      rcases Option.map_eq_some_iff.mp hfactory with ⟨entry, hfind, rfl⟩
      have hkey : entry.1 = (moduleName, name) := by simpa using List.find?_some hfind
      have hmodest : BuildsModest entry.2 := by
        refine buildsModest_of_mem (List.mem_of_find?_eq_some hfind) ?_
        rw [hkey]
        exact hother
      split at hmade
      · cases hmade
      · rename_i p' hbuilt
        split at hmade
        · cases hmade
          exact hmodest hbuilt
        · cases hmade

end Builtin

end ClusterNode
