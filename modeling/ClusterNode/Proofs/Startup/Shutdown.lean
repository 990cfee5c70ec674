import ClusterNode.Proofs.Startup.Services
import ClusterNode.Signal

/-!
# What a shutdown stops

A startup that gets as far as its starts has settled the startup sequence before, so whatever was
started is stopped, and so are the modules whose turn has not come. The stops go through the
sequence from its end, each in the world that the one before it left, whether that one has failed or
not.
-/

namespace ClusterNode

def HookCall.modulesIn (phase : Phase) (calls : List HookCall) : List String :=
  (calls.filter fun call => call.phase = phase).map HookCall.moduleName

namespace Manager

open Situation HookCall

variable {σ V : Type} {m m' : Manager σ V} {p : Provider σ V} {world : σ} {order : List Nat}
  {called : List HookCall}

/-!
## The sequence and the starts

Of the hooks that a startup calls, the starts are an initial part of the sequence. Other calls
change nothing about the sequence.
-/

/-- What is known of the startup sequence, with the hooks that have been called. -/
structure Sequenced (m : Manager σ V) (called : List HookCall) : Prop where
  unset : m.preparing = true -> m.sequence = []
  order : m.preparing = false ->
    StartupOrder.compute (m.modules.map LoadedModule.needs) = .ok m.sequence
  starts : modulesIn .start called <+: m.startupSequence

theorem sequenced_create : (create : Manager σ V).Sequenced [] := by
  constructor
  · intro _
    rfl
  · intro h
    cases h
  · exact List.nil_prefix

theorem startupSequence_eq_nil (h : m.sequence = []) : m.startupSequence = [] := by
  simp [startupSequence, started, h]

theorem startupSequence_eq (hns : forall n, n ∈ m.sequence -> n < m.modules.length) :
    m.startupSequence = m.sequence.map fun n => m.moduleNames.getD n "" := by
  have hsome : forall n, n ∈ m.sequence ->
      (m.modules[n]?).map LoadedModule.name = some (m.moduleNames.getD n "") := by
    intro n hn
    rcases exists_of_lt (hns n hn) with ⟨k, hk⟩
    simp [moduleNames, hk]
  rw [startupSequence, started, List.map_filterMap, ← List.filterMap_eq_map']
  exact List.filterMap_congr hsome

theorem modulesIn_append (phase : Phase) (a b : List HookCall) :
    modulesIn phase (a ++ b) = modulesIn phase a ++ modulesIn phase b := by
  simp [modulesIn]

theorem mem_modulesIn_iff {phase : Phase} {calls : List HookCall} {name : String} :
    name ∈ modulesIn phase calls <-> HookCall.mk phase name ∈ calls := by
  constructor
  · intro h
    rcases List.mem_map.mp h with ⟨call, hcall, rfl⟩
    rcases List.mem_filter.mp hcall with ⟨hmem, hphase⟩
    rw [← of_decide_eq_true hphase]
    exact hmem
  · intro h
    exact List.mem_map.mpr ⟨_, List.mem_filter.mpr ⟨h, decide_eq_true rfl⟩, rfl⟩

theorem modulesIn_map_callOf (phase : Phase) (names : List String) (hooks : List Hook) :
    modulesIn phase (hooks.map (callOf names)) =
      (hooks.filter fun hook => hook.phase = phase).map fun hook => names.getD hook.index "" := by
  simp [modulesIn, List.filter_map, Function.comp_def, callOf]

theorem filter_map_hook (phase phase' : Phase) (order : List Nat) :
    (order.map (Hook.mk phase)).filter (fun hook => hook.phase = phase') =
      if phase = phase' then order.map (Hook.mk phase) else [] := by
  split
  · rename_i heq
    rw [List.filter_eq_self]
    intro hook hhook
    rcases List.mem_map.mp hhook with ⟨n, _, rfl⟩
    exact decide_eq_true heq
  · rename_i hne
    rw [List.filter_eq_nil_iff]
    intro hook hhook
    rcases List.mem_map.mp hhook with ⟨n, _, rfl⟩
    simpa using hne

/-- Of the hooks that a startup calls, the starts are an initial part of the sequence. -/
theorem modulesIn_start_initial {done : List Hook} (names : List String)
    (hdone : done <+: order.map (Hook.mk .start) ++ order.map (Hook.mk .afterAllStarted)) :
    modulesIn .start ((order.map (Hook.mk .prepare) ++ done).map (callOf names)) <+:
      order.map fun n => names.getD n "" := by
  have hfilter := (hdone.filter fun hook => hook.phase = .start).map fun hook =>
    names.getD hook.index ""
  rw [List.filter_append, filter_map_hook, filter_map_hook, if_pos rfl, if_neg (by decide),
    List.append_nil, List.map_map] at hfilter
  rw [modulesIn_map_callOf, List.filter_append, filter_map_hook, if_neg (by decide),
    List.nil_append]
  exact hfilter

theorem Sequenced.calling (h : m.Sequenced called) {more : List HookCall}
    (hmore : modulesIn .start more = []) : m.Sequenced (called ++ more) := by
  refine ⟨h.unset, h.order, ?_⟩
  rw [modulesIn_append, hmore, List.append_nil]
  exact h.starts

theorem Sequenced.load (h : m.Sequenced called) (hpreparing : m.preparing = true) :
    (m.load p).Sequenced called := by
  have hunset : (m.load p).sequence = [] := h.unset hpreparing
  have hstarts := h.starts
  rw [startupSequence_eq_nil (h.unset hpreparing)] at hstarts
  refine ⟨fun _ => hunset, fun hprepared => ?_, ?_⟩
  · cases hpreparing.symm.trans hprepared
  · rw [startupSequence_eq_nil hunset]
    exact hstarts

theorem Sequenced.booted {lived : Lived σ} (h : m.Sequenced called) (hnames : m.moduleNames.Nodup)
    (hbooted : Booted m world m' lived) : m'.Sequenced (called ++ lived.calls) := by
  have hcast := hbooted.cast_eq
  cases hbooted with
  | refused _ => exact h.calling rfl
  | unsequenced _ _ => exact h.calling rfl
  | @halted order done last e hpreparing horder hdone =>
      have hnone : modulesIn .start (done.map (callOf m.moduleNames)) = [] := by
        have hfilter := hdone.initial.filter fun hook => hook.phase = .start
        rw [filter_map_hook, if_neg (by decide)] at hfilter
        rw [modulesIn_map_callOf, List.prefix_nil.mp hfilter]
        rfl
      have hcalled := h.calling hnone
      have hstarts := hcalled.starts
      have hunset := h.unset hpreparing
      rw [startupSequence_eq_nil hunset] at hstarts
      refine ⟨fun _ => hunset, fun hprepared => ?_, ?_⟩
      · cases hpreparing.symm.trans hprepared
      · rw [List.prefix_nil.mp hstarts]
        exact List.nil_prefix
  | @launched order done ready last result hpreparing horder hready hdone =>
      have hlength : ready.modules.length = m.modules.length := by
        simpa [Situation.cast, prepared] using congrArg List.length hcast
      have hnames' : (prepared ready.modules order).moduleNames = m.moduleNames :=
        names_eq_of_cast_eq hcast
      have hns : forall n, n ∈ order -> n < ready.modules.length := by
        intro n hn
        rw [hlength]
        simpa using (perm_of_compute_ok hnames horder).mem_iff.mp hn
      have hnone : modulesIn .start called = [] := by
        have hstarts := h.starts
        rw [startupSequence_eq_nil (h.unset hpreparing)] at hstarts
        exact List.prefix_nil.mp hstarts
      refine ⟨fun hstill => absurd hstill Bool.false_ne_true, fun _ => ?_, ?_⟩
      · rw [needs_eq_of_cast_eq hcast]
        exact horder
      · rw [modulesIn_append, hnone, List.nil_append, startupSequence_eq hns, hnames']
        exact modulesIn_start_initial m.moduleNames hdone.initial

theorem modulesIn_start_shutdown (m : Manager σ V) (world : σ) :
    modulesIn .start (m.shutdown world).2.1 = [] := by
  apply List.eq_nil_iff_forall_not_mem.mpr
  intro name hname
  exact notMem_start_shutdown m world name (mem_modulesIn_iff.mp hname)

theorem Sequenced.serve (h : m.Sequenced called) (hnames : m.moduleNames.Nodup)
    (request : Request σ V) : (m.serve request).1.Sequenced (called ++ (m.serve request).2) := by
  cases request with
  | addProvider p =>
      rcases serve_addProvider m p with ⟨hpreparing, _, hserve⟩ | ⟨_, hserve⟩
      · rw [hserve, List.append_nil]
        exact h.load hpreparing
      · rw [hserve, List.append_nil]
        exact h
  | bootstrap world => exact h.booted hnames (booted_bootstrap hnames world)
  | find moduleName => exact h.calling rfl
  | shutdown world => exact h.calling (modulesIn_start_shutdown m world)

theorem sequenced_after (history : List (Request σ V)) :
    (create.after history).Sequenced (create.calls history) := by
  induction history using List.reverseRecOn with
  | nil => exact sequenced_create
  | append_singleton history request ih =>
      rw [after_concat, calls_concat]
      exact ih.serve (sound_after history).names request

/-!
## The stops

In the sequence a module comes after those that it requires, so in a shutdown it comes before them.
-/

inductive Stops : List (LoadedModule σ V × Except Failure Unit) -> σ -> σ -> Prop where
  | nil (world : σ) : Stops [] world world
  | cons {k : LoadedModule σ V} {answer : Except Failure Unit}
      {rest : List (LoadedModule σ V × Except Failure Unit)} {world next last : σ} :
      k.provider.stop world = (next, answer) -> Stops rest next last ->
        Stops ((k, answer) :: rest) world last

def stopWarning? : LoadedModule σ V × Except Failure Unit -> Option Signal
  | (_, .ok ()) => none
  | (k, .error failure) =>
      some (.warning ("stop failed for provider " ++ k.provider.name ++ " in module " ++ k.name ++
        ": " ++ failure.text))

theorem exists_stops (modules : List (LoadedModule σ V)) (world : σ) :
    exists answers, Stops answers world (stopAll modules world).1 ∧
      answers.map Prod.fst = modules ∧
      (stopAll modules world).2.2.map (fun e => Signal.warning e.message) =
        answers.filterMap stopWarning? := by
  induction modules generalizing world with
  | nil => exact ⟨[], Stops.nil world, rfl, rfl⟩
  | cons k rest ih =>
      rcases hstop : k.provider.stop world with ⟨next, answer⟩
      rcases ih next with ⟨answers, hstops, hmodules, hwarnings⟩
      refine ⟨(k, answer) :: answers, ?_, by rw [List.map_cons, hmodules], ?_⟩
      · simp only [stopAll, hstop]
        exact Stops.cons hstop hstops
      · cases answer with
        | ok _ =>
            simp only [stopAll, hstop]
            exact hwarnings
        | error failure =>
            simp only [stopAll, hstop, List.map_cons]
            rw [hwarnings]
            rfl

theorem calls_shutdown (m : Manager σ V) (world : σ) :
    (m.shutdown world).2.1 = m.startupSequence.reverse.map (HookCall.mk .stop) := by
  rw [shutdown, calls_stopAll, startupSequence, ← List.map_reverse, List.map_map]
  rfl

theorem Sequenced.exists_split (h : m.Sequenced called) (hnames : m.moduleNames.Nodup)
    (hprepared : m.preparing = false) {a b : String} (ha : a ∈ m.moduleNames)
    (hreaches : StartupOrder.Reaches (m.modules.map LoadedModule.needs) a b) :
    exists first later, m.startupSequence = first ++ a :: later ∧ b ∈ first := by
  have horder := h.order hprepared
  have hdistinct : ((m.modules.map LoadedModule.needs).map ModuleNeeds.name).Nodup := by
    simpa [LoadedModule.needs, Function.comp_def, moduleNames] using hnames
  rcases List.mem_map.mp ha with ⟨k, hk, rfl⟩
  rcases List.mem_iff_getElem?.mp hk with ⟨i, hi⟩
  have hneed : (m.modules.map LoadedModule.needs)[i]? = some k.needs := by
    rw [List.getElem?_map, hi]
    rfl
  rcases StartupOrder.exists_before_of_reaches hdistinct horder hreaches hneed rfl with
    ⟨j, need, hj, rfl, hlt⟩
  rw [List.getElem?_map] at hj
  rcases Option.map_eq_some_iff.mp hj with ⟨other, hother, rfl⟩
  have hmem : i ∈ m.sequence := by
    rw [(perm_of_compute_ok hnames horder).mem_iff, List.mem_range]
    exact (List.getElem?_eq_some_iff.mp hi).1
  rcases List.append_of_mem hmem with ⟨before, after, hsplit⟩
  rw [hsplit] at hlt
  have hbefore := StartupOrder.mem_before_of_idxOf_lt hlt
  refine ⟨(before.filterMap fun n => m.modules[n]?).map LoadedModule.name,
    (after.filterMap fun n => m.modules[n]?).map LoadedModule.name, ?_, ?_⟩
  · rw [startupSequence, started, hsplit, List.filterMap_append, List.filterMap_cons_some hi,
      List.map_append, List.map_cons]
  · exact List.mem_map.mpr ⟨other, List.mem_filterMap.mpr ⟨j, hbefore, hother⟩, rfl⟩

/-- What a shutdown does after a history of requests. -/
structure Covered (history : List (Request σ V)) (m : Manager σ V) (world : σ) : Prop where
  /-- The starts that were called are an initial part of the startup sequence. -/
  starts : modulesIn .start (create.calls history) <+: m.startupSequence
  /-- Whatever was started is stopped. -/
  stopped : forall name, HookCall.mk .start name ∈ create.calls history ->
    HookCall.mk .stop name ∈ (m.shutdown world).2.1
  /-- When all prepares have gone well, all modules are stopped, from the end of the sequence. -/
  reversed : HasPrepared history ->
    (m.shutdown world).2.1 = m.startupSequence.reverse.map (HookCall.mk .stop) ∧
      m.startupSequence.Perm m.moduleNames
  once : (m.shutdown world).2.1.Nodup
  /-- A module is stopped before those that it requires, directly or through others. -/
  dependents : HasPrepared history -> forall a b, a ∈ m.moduleNames ->
    StartupOrder.Reaches (m.modules.map LoadedModule.needs) a b ->
      exists first later, (m.shutdown world).2.1 = first ++ HookCall.mk .stop a :: later ∧
        HookCall.mk .stop b ∈ later
  /-- Otherwise nothing is stopped. -/
  unprepared : ¬HasPrepared history -> (m.shutdown world).2.1 = []
  /-- A stop that fails leaves one warning, and the stops go on. -/
  warned : exists answers : List (LoadedModule σ V × Except Failure Unit),
    Stops answers world (m.shutdown world).1 ∧
    answers.map (fun answer => answer.1.call .stop) = (m.shutdown world).2.1 ∧
    (m.shutdown world).2.2.map (fun e => Signal.warning e.message) = answers.filterMap stopWarning?

/-- A shutdown covers what the startups before it have begun, however they have ended, and whatever
the hooks do. -/
theorem shutdown_covers (history : List (Request σ V)) (world : σ) :
    Covered history (create.after history) world := by
  have hsound := sound_after history
  have hsequenced := sequenced_after history
  have hcalls := calls_shutdown (create.after history) world
  have hperm : (create.after history).preparing = false ->
      (create.after history).startupSequence.Perm (create.after history).moduleNames :=
    fun hprepared => startupSequence_perm (hsound.sequence hprepared)
  have hunset : (create.after history).preparing = true ->
      (create.after history).startupSequence = [] :=
    fun hpreparing => startupSequence_eq_nil (hsequenced.unset hpreparing)
  constructor
  · exact hsequenced.starts
  · intro name hstart
    rw [hcalls]
    have hmem := hsequenced.starts.subset (mem_modulesIn_iff.mpr hstart)
    exact List.mem_map.mpr ⟨name, List.mem_reverse.mpr hmem, rfl⟩
  · intro hprepared
    exact ⟨hcalls, hperm ((hasPrepared_iff history).mp hprepared)⟩
  · rw [hcalls]
    refine List.Nodup.map (fun _ _ heq => (HookCall.mk.inj heq).right) ?_
    rw [List.nodup_reverse]
    cases hpreparing : (create.after history).preparing with
    | true =>
        rw [hunset hpreparing]
        exact List.nodup_nil
    | false => exact (hperm hpreparing).nodup_iff.mpr hsound.names
  · intro hprepared a b ha hreaches
    rcases hsequenced.exists_split hsound.names ((hasPrepared_iff history).mp hprepared) ha hreaches
      with ⟨first, later, hsplit, hb⟩
    refine ⟨later.reverse.map (HookCall.mk .stop), first.reverse.map (HookCall.mk .stop), ?_, ?_⟩
    · rw [hcalls, hsplit]
      simp
    · exact List.mem_map.mpr ⟨b, List.mem_reverse.mpr hb, rfl⟩
  · intro hunprepared
    have hpreparing : (create.after history).preparing = true := by
      rw [hasPrepared_iff] at hunprepared
      simpa using hunprepared
    rw [hcalls, hunset hpreparing]
    rfl
  · rcases exists_stops (create.after history).started.reverse world with
      ⟨answers, hstops, hmodules, hwarnings⟩
    refine ⟨answers, hstops, ?_, hwarnings⟩
    rw [shutdown, calls_stopAll, ← hmodules, List.map_map]
    rfl

/-- The storage has failed to start, and is stopped before the core all the same. -/
example : ((create.after [.addProvider storage, .addProvider core, .bootstrap 1]).shutdown 1).2.1 =
    [{ phase := .stop, moduleName := "storage" }, { phase := .stop, moduleName := "core" }] := by
  decide +kernel

end Manager
end ClusterNode
