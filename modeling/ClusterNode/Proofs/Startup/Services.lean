import ClusterNode.Proofs.Startup.Requests

/-!
# Services at a start

A module that starts can rely on the modules that it requires, directly or through others: they have
started before, so nothing that they promised was missing then, and since the prepares their
registries have not changed. When the starts are over, this holds of all modules.
-/

namespace ClusterNode

namespace Registry

variable {V : Type} {r : Registry V} {promised : List Capability} {c : Capability}

theorem exists_of_requireAll_eq_ok (h : r.requireAll promised = .ok ()) (hc : c ∈ promised) :
    exists v, r.get c = .ok v := by
  unfold requireAll at h
  split at h
  · cases h
  · rename_i hnone
    have hcontains : r.contains c = true := by simpa using List.find?_eq_none.mp hnone c hc
    rcases contains_eq_true_iff.mp hcontains with ⟨v, hv⟩
    exact ⟨v, get_eq_ok_iff.mpr hv⟩

end Registry

namespace StartupOrder

variable {needs : List ModuleNeeds} {order : List Nat}

theorem exists_before_of_reaches (hdistinct : (needs.map ModuleNeeds.name).Nodup)
    (horder : compute needs = .ok order) {a b : String} (h : Reaches needs a b) {i : Nat}
    {m : ModuleNeeds} (hm : needs[i]? = some m) (hname : m.name = a) :
    exists j k, needs[j]? = some k ∧ k.name = b ∧ order.idxOf j < order.idxOf i := by
  have hsound := (order_of_compute_ok hdistinct horder).right
  have hloaded := (exists_sequence_of_compute_ok horder).left
  -- One requirement leads to a module that is loaded and ordered before.
  have hstep : forall {x y : String}, Requires needs x y -> forall {i : Nat} {m : ModuleNeeds},
      needs[i]? = some m -> m.name = x ->
        exists j k, needs[j]? = some k ∧ k.name = y ∧ order.idxOf j < order.idxOf i := by
    intro x y hrequires i m hm hname
    rw [← hname] at hrequires
    have hy := (requires_iff hdistinct (List.mem_of_getElem? hm) y).mp hrequires
    rcases List.mem_map.mp (hloaded m (List.mem_of_getElem? hm) y hy) with ⟨k, hk, rfl⟩
    rcases List.mem_iff_getElem?.mp hk with ⟨j, hj⟩
    exact ⟨j, k, hj, rfl, hsound i j m k hm hj hy⟩
  induction h with
  | single hrequires => exact hstep hrequires hm hname
  | tail _ hrequires ih =>
      rcases ih with ⟨j, k, hk, hname', hlt⟩
      rcases hstep hrequires hk hname' with ⟨j', k', hk', hname'', hlt'⟩
      exact ⟨j', k', hk', hname'', hlt'.trans hlt⟩

theorem mem_before_of_idxOf_lt {before after : List Nat} {i j : Nat}
    (h : (before ++ i :: after).idxOf j < (before ++ i :: after).idxOf i) : j ∈ before := by
  by_contra hj
  have hle : (before ++ i :: after).idxOf i ≤ before.length := by
    by_cases hi : i ∈ before
    · rw [List.idxOf_append_of_mem hi]
      exact List.idxOf_le_length
    · rw [List.idxOf_append_of_notMem hi, List.idxOf_cons_self]
      exact Nat.le_refl _
  rw [List.idxOf_append_of_notMem hj] at h
  omega

end StartupOrder

namespace Situation

variable {σ V : Type} {order : List Nat} {s now last : Situation σ V} {done plan : List Hook}
  {result : Except ModuleError Unit}

theorem CarriedOut.went_before (h : CarriedOut order s plan done last result)
    {before later : List Hook} {hook : Hook} (hsplit : done = before ++ hook :: later) :
    exists now, Went order s before now := by
  rcases h.went_or_failed with hall | ⟨first, failing, now, _, hfirst, hbefore, _⟩
  · rw [hsplit] at hall
    rcases hall.of_append with ⟨now, hnow, _⟩
    exact ⟨now, hnow⟩
  · rw [hsplit] at hfirst
    rcases List.eq_nil_or_concat later with rfl | ⟨more, final, rfl⟩
    · rcases List.append_inj' hfirst rfl with ⟨rfl, _⟩
      exact ⟨now, hbefore⟩
    · rw [List.concat_eq_append, ← List.cons_append, ← List.append_assoc] at hfirst
      rcases List.append_inj' hfirst rfl with ⟨rfl, _⟩
      rcases hbefore.of_append with ⟨middle, hmiddle, _⟩
      exact ⟨middle, hmiddle⟩

theorem Went.requireAll_eq_ok {ns : List Nat} (h : Went order s (ns.map (Hook.mk .start)) last)
    {n : Nat} (hn : n ∈ ns) {m : LoadedModule σ V} (hm : last.modules[n]? = some m) :
    m.registry.requireAll m.provider.promises = .ok () := by
  have hsame : forall {ns : List Nat} {s last : Situation σ V},
      Went order s (ns.map (Hook.mk .start)) last -> last.modules = s.modules := by
    intro ns s last hwent
    apply hwent.modules_eq
    intro hook hhook
    rcases List.mem_map.mp hhook with ⟨k, _, rfl⟩
    exact Phase.noConfusion
  induction ns generalizing s with
  | nil => cases hn
  | cons k rest ih =>
      cases h with
      | @cons _ next _ _ _ hfree hperform hrest =>
          rcases List.mem_cons.mp hn with rfl | hn
          · have hstep := modules_perform (s := s) (h := ⟨.start, n⟩) order Phase.noConfusion
            rw [hperform] at hstep
            have hs : s.modules[n]? = some m := by
              rw [← hstep, ← hsame hrest]
              exact hm
            unfold barrier? at hfree
            rw [hs] at hfree
            dsimp only at hfree
            split at hfree
            · cases hfree
            · assumption
          · exact ih hrest hn

theorem exists_of_schedule_eq_afterAllStarted {before after : List Hook} {n : Nat}
    (h : schedule order = before ++ ⟨.afterAllStarted, n⟩ :: after) :
    exists middle, before =
        order.map (Hook.mk .prepare) ++ (order.map (Hook.mk .start) ++ middle) ∧
      forall hook, hook ∈ middle -> hook.phase ≠ .prepare := by
  have hnot : Hook.mk .afterAllStarted n ∉
      order.map (Hook.mk .prepare) ++ order.map (Hook.mk .start) := by
    rw [List.mem_append, not_or]
    exact ⟨Manager.notMem_map_hook (by decide) order n, Manager.notMem_map_hook (by decide) order n⟩
  rcases Manager.cut_after h hnot with ⟨middle, rfl, hrest⟩
  refine ⟨middle, List.append_assoc _ _ _, ?_⟩
  intro hook hhook
  apply Manager.phase_ne_prepare_of_mem (List.mem_append_right (order.map (Hook.mk .start)) _)
  rw [hrest]
  exact List.mem_append_left _ hhook

end Situation

namespace Manager

open Situation

variable {σ V : Type} {history : List (Request σ V)} {order : List Nat} {world : σ}

/-- In this view, the services that a module promised are found, and each is the one that the
prepare of the module itself has registered. -/
def Provides (history : List (Request σ V)) (view : ModulesView V) (k : LoadedModule σ V) : Prop :=
  forall c, c ∈ k.provider.promises -> exists v, view.service k.name c = .ok v ∧
    forall w, Registered history k.name c w <-> w = v

theorem provides_of_requireAll (hpreparing : (create.after history).preparing = true)
    (horder : StartupOrder.compute ((create.after history).modules.map LoadedModule.needs) =
      .ok order) {ready now : Situation σ V}
    (hready : Went order { modules := (create.after history).modules, world }
      (order.map (Hook.mk .prepare)) ready)
    (hsame : now.modules = ready.modules) {k : LoadedModule σ V} (hk : k ∈ now.modules)
    (hall : k.registry.requireAll k.provider.promises = .ok ()) :
    Provides (history ++ [.bootstrap world]) (now.view order) k := by
  have hsound := sound_after history
  have hnames : (prepared now.modules order).moduleNames.Nodup := by
    have heq : (prepared now.modules order).moduleNames = (create.after history).moduleNames := by
      show names now.modules = names (create.after history).modules
      rw [hsame]
      exact names_eq_of_cast_eq hready.cast_eq
    rw [heq]
    exact hsound.names
  have hfind : (now.view order).find k.name = .ok k.registry :=
    (find_eq_ok_iff hnames).mpr ⟨rfl, k, hk, rfl, rfl⟩
  rw [hsame] at hk
  intro c hc
  rcases Registry.exists_of_requireAll_eq_ok hall hc with ⟨v, hv⟩
  refine ⟨v, ?_, ?_⟩
  · rw [ModulesView.service, hfind]
    exact hv
  · intro w
    have hdistinct := hready.distinct hsound.registries k hk
    have hfound := Registry.get_eq_ok_iff.mp hv
    rw [← mem_services_of_prepares (mem_services_iff_registered history) hpreparing horder
      (CarriedOut.whole hready) hk, ← hdistinct.find?_eq_some_iff, hfound, Option.some.injEq]
    exact eq_comm

theorem needs_eq_of_cast_eq {modules modules' : List (LoadedModule σ V)}
    (h : Situation.cast modules' = Situation.cast modules) :
    modules'.map LoadedModule.needs = modules.map LoadedModule.needs := by
  have hmap := congrArg (List.map fun (entry : String × Provider σ V) =>
    ModuleNeeds.mk entry.1 entry.2.name entry.2.requires) h
  rw [Situation.cast, Situation.cast, List.map_map, List.map_map] at hmap
  exact hmap

/-- When a module is about to start, all that it requires has been started before. -/
theorem provides_at_start (hpreparing : (create.after history).preparing = true)
    (horder : StartupOrder.compute ((create.after history).modules.map LoadedModule.needs) =
      .ok order) {before later : List Hook} {n : Nat} {now : Situation σ V} {m : LoadedModule σ V}
    (hsplit : schedule order = before ++ ⟨.start, n⟩ :: later)
    (hbefore : Went order { modules := (create.after history).modules, world } before now)
    (hm : now.modules[n]? = some m) {other : String}
    (hreaches : StartupOrder.Reaches (now.modules.map LoadedModule.needs) m.name other) :
    exists k, k ∈ now.modules ∧ k.name = other ∧
      Provides (history ++ [.bootstrap world]) (now.view order) k := by
  have hneeds := needs_eq_of_cast_eq hbefore.cast_eq
  have hdistinct : ((now.modules.map LoadedModule.needs).map ModuleNeeds.name).Nodup := by
    rw [hneeds]
    simpa [LoadedModule.needs, Function.comp_def, moduleNames] using (sound_after history).names
  have horder' := horder
  rw [← hneeds] at horder'
  have hneed : (now.modules.map LoadedModule.needs)[n]? = some m.needs := by
    rw [List.getElem?_map, hm]
    rfl
  rcases StartupOrder.exists_before_of_reaches hdistinct horder' hreaches hneed rfl with
    ⟨j, need, hj, hname, hlt⟩
  rw [List.getElem?_map] at hj
  rcases Option.map_eq_some_iff.mp hj with ⟨k, hk, rfl⟩
  rcases exists_of_schedule_eq hsplit with ⟨earlier, rest, rfl, rfl⟩
  rcases hbefore.of_append with ⟨ready, hready, hstarts⟩
  have hmem := List.mem_of_getElem? hk
  have hall := hstarts.requireAll_eq_ok (StartupOrder.mem_before_of_idxOf_lt hlt) hk
  have hsame := hstarts.modules_eq fun hook hhook =>
    phase_ne_prepare_of_mem (List.mem_append_left (earlier.map _) hhook)
  exact ⟨k, hmem, hname, provides_of_requireAll hpreparing horder hready hsame hmem hall⟩

/-- When a module is about to be told that everything has started, everything has. -/
theorem provides_when_started (hpreparing : (create.after history).preparing = true)
    (horder : StartupOrder.compute ((create.after history).modules.map LoadedModule.needs) =
      .ok order) {before later : List Hook} {n : Nat} {now : Situation σ V}
    (hsplit : schedule order = before ++ ⟨.afterAllStarted, n⟩ :: later)
    (hbefore : Went order { modules := (create.after history).modules, world } before now)
    {k : LoadedModule σ V} (hk : k ∈ now.modules) :
    Provides (history ++ [.bootstrap world]) (now.view order) k := by
  rcases exists_of_schedule_eq_afterAllStarted hsplit with ⟨middle, rfl, hmiddle⟩
  rcases hbefore.of_append with ⟨ready, hready, hrest⟩
  rcases hrest.of_append with ⟨started, hstarts, hnotified⟩
  have hlater : now.modules = started.modules := hnotified.modules_eq hmiddle
  have hsame : started.modules = ready.modules := hstarts.modules_eq fun hook hhook =>
    phase_ne_prepare_of_mem (List.mem_append_left (order.map _) hhook)
  rcases List.mem_iff_getElem?.mp hk with ⟨j, hj⟩
  have hlength : now.modules.length = (create.after history).modules.length := by
    simpa [Situation.cast] using congrArg List.length hbefore.cast_eq
  have hmem : j ∈ order := by
    rw [(perm_of_compute_ok (sound_after history).names horder).mem_iff, List.mem_range, ← hlength]
    exact (List.getElem?_eq_some_iff.mp hj).1
  have hall := hstarts.requireAll_eq_ok hmem (hlater ▸ hj)
  exact provides_of_requireAll hpreparing horder hready (hlater.trans hsame) hk hall

/-- Whenever a startup calls the start of a module, the modules that it requires, directly or
through others, provide what they promised. Whenever a startup tells a module that everything has
started, all modules do. -/
theorem required_services_found (hpreparing : (create.after history).preparing = true)
    (horder : StartupOrder.compute ((create.after history).modules.map LoadedModule.needs) =
      .ok order) (world : σ) :
    exists done,
      ((create.after history).bootstrap world).2.calls =
        done.map (callOf (create.after history).moduleNames) ∧
      done <+: schedule order ∧
      forall before hook later, done = before ++ hook :: later -> exists now m,
        Went order { modules := (create.after history).modules, world } before now ∧
        now.modules[hook.index]? = some m ∧
        (hook.phase = .start -> forall other,
          StartupOrder.Reaches (now.modules.map LoadedModule.needs) m.name other ->
            exists k, k ∈ now.modules ∧ k.name = other ∧
              Provides (history ++ [.bootstrap world]) (now.view order) k) ∧
        (hook.phase = .afterAllStarted -> forall k, k ∈ now.modules ->
          Provides (history ++ [.bootstrap world]) (now.view order) k) := by
  have hns : forall n, n ∈ order -> n < (create.after history).modules.length := by
    intro n hn
    simpa using (perm_of_compute_ok (sound_after history).names horder).mem_iff.mp hn
  rcases yields_bootstrap hpreparing horder hns world with ⟨done, hdone, hcalls⟩
  refine ⟨done, hcalls, hdone.initial, ?_⟩
  intro before hook later hsplit
  rcases hdone.went_before hsplit with ⟨now, hnow⟩
  rcases hdone.initial with ⟨rest, hrest⟩
  have hplan : schedule order = before ++ hook :: (later ++ rest) := by
    rw [← hrest, hsplit, List.append_assoc, List.cons_append]
  have hindex : hook.index < now.modules.length := by
    have hlength : now.modules.length = (create.after history).modules.length := by
      simpa [Situation.cast] using congrArg List.length hnow.cast_eq
    rw [hlength]
    apply index_lt_of_mem_schedule hns (h := hook)
    rw [hplan]
    exact List.mem_append_right before List.mem_cons_self
  rcases exists_of_lt hindex with ⟨m, hm⟩
  refine ⟨now, m, hnow, hm, ?_, ?_⟩
  · rcases hook with ⟨phase, n⟩
    rintro rfl other hreaches
    exact provides_at_start hpreparing horder hplan hnow hm hreaches
  · rcases hook with ⟨phase, n⟩
    rintro rfl k hk
    exact provides_when_started hpreparing horder hplan hnow hk

/-!
## A startup that is tried again
-/

def clock : Capability := { typeName := "Clock" }

/-- Provides a clock. Its first prepare registers it and fails; the registry keeps the first clock
when the second prepare comes with another one. -/
def core : Provider Nat Nat :=
  { name := "default", moduleName := "core", requires := [], promises := [clock]
    prepare := fun _ attempt =>
      .register clock attempt fun _ =>
        .ended (attempt + 1) (if attempt = 0 then .error (.ofText "not yet") else .ok ())
    start := fun _ attempt => (attempt, .ok ())
    afterAllStarted := fun _ attempt => (attempt, .ok ())
    stop := fun attempt => (attempt, .ok ()) }

def storage : Provider Nat Nat :=
  { name := "memory", moduleName := "storage", requires := ["core"], promises := []
    prepare := fun _ attempt => .ended attempt (.ok ())
    start := fun view attempt =>
      (attempt, if view.service "core" clock = .ok 0 then .ok () else .error (.ofText "no clock"))
    afterAllStarted := fun _ attempt => (attempt, .ok ())
    stop := fun attempt => (attempt, .ok ()) }

def retriedStartup : List (Request Nat Nat) :=
  [.addProvider storage, .addProvider core, .bootstrap 0]

/-- The storage starts with the clock of the prepare that failed. -/
theorem required_services_found_of_retriedStartup :
    (create.after retriedStartup).preparing = true ∧
      StartupOrder.compute ((create.after retriedStartup).modules.map LoadedModule.needs) =
        .ok [1, 0] ∧
      ((create.after retriedStartup).bootstrap 1).2.result = .ok () ∧
      exists done,
        ((create.after retriedStartup).bootstrap 1).2.calls =
          done.map (callOf (create.after retriedStartup).moduleNames) ∧
        done <+: schedule [1, 0] ∧
        forall before hook later, done = before ++ hook :: later -> exists now m,
          Went [1, 0] { modules := (create.after retriedStartup).modules, world := 1 } before
            now ∧
          now.modules[hook.index]? = some m ∧
          (hook.phase = .start -> forall other,
            StartupOrder.Reaches (now.modules.map LoadedModule.needs) m.name other ->
              exists k, k ∈ now.modules ∧ k.name = other ∧
                Provides (retriedStartup ++ [.bootstrap 1]) (now.view [1, 0]) k) ∧
          (hook.phase = .afterAllStarted -> forall k, k ∈ now.modules ->
            Provides (retriedStartup ++ [.bootstrap 1]) (now.view [1, 0]) k) := by
  have hpreparing : (create.after retriedStartup).preparing = true := by decide +kernel
  have horder : StartupOrder.compute
      ((create.after retriedStartup).modules.map LoadedModule.needs) = .ok [1, 0] := by
    decide +kernel
  have hresult : ((create.after retriedStartup).bootstrap 1).2.result = .ok () := by
    decide +kernel
  exact ⟨hpreparing, horder, hresult, required_services_found hpreparing horder 1⟩

end Manager
end ClusterNode
