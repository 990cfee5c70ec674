import ClusterNode.Proofs.Builtin.Role
import ClusterNode.Proofs.Startup.Requests

/-!
# The life of a node

A startup takes the core module through its hooks and a shutdown stops it, with other modules around
it that stand by. Whatever the membership answers and wherever the startup breaks off, the node is
registered at most once, its task runs only when everything before it has gone well, and after the
stop of the core module the task does nothing any more.
-/

namespace ClusterNode

namespace CoreModule

section Hosts

variable {β : Type}

/-- One of the modules is the core module, and the others stand by. -/
structure Hosts (s : Surroundings β) (settings : CoreSettings) (n : Nat)
    (modules : List (LoadedModule (Node (β × List Note)) Service)) : Prop where
  core : exists k, modules[n]? = some k ∧ k.name = moduleName ∧
    k.provider = provider s.recorded settings
  others : forall i k, modules[i]? = some k -> i ≠ n -> k.provider.Bystander

variable {s : Surroundings β} {settings : CoreSettings} {n : Nat}
  {modules : List (LoadedModule (Node (β × List Note)) Service)}

theorem Hosts.bystander_or_core (h : Hosts s settings n modules)
    {k : LoadedModule (Node (β × List Note)) Service} (hk : k ∈ modules) :
    k.provider.Bystander ∨ k.provider = provider s.recorded settings := by
  rcases List.mem_iff_getElem?.mp hk with ⟨i, hi⟩
  by_cases hin : i = n
  · subst hin
    rcases h.core with ⟨core, hcore, _, hprovider⟩
    cases hi.symm.trans hcore
    exact Or.inr hprovider
  · exact Or.inl (h.others i k hi hin)

theorem Hosts.of_cast_eq (h : Hosts s settings n modules)
    {modules' : List (LoadedModule (Node (β × List Note)) Service)}
    (hcast : Situation.cast modules' = Situation.cast modules) : Hosts s settings n modules' := by
  constructor
  · rcases h.core with ⟨k, hk, hname, hprovider⟩
    rcases Situation.exists_of_cast_eq hcast.symm hk with ⟨k', hk', hname', hprovider'⟩
    exact ⟨k', hk', hname'.trans hname, hprovider'.trans hprovider⟩
  · intro i k' hk' hi
    rcases Situation.exists_of_cast_eq hcast hk' with ⟨k, hk, _, hprovider⟩
    rw [← hprovider]
    exact h.others i k hk hi

theorem hosts_of_modest {earlier later : List (BuiltinProvider β)}
    (hearlier : forall p, p ∈ earlier -> p.Modest) (hlater : forall p, p ∈ later -> p.Modest) :
    Hosts s settings earlier.length
      ((earlier.map Provider.recorded ++ provider s.recorded settings ::
        later.map Provider.recorded).map fun p =>
          { provider := p, registry := .create p.moduleName }) := by
  have hmodest : forall {p}, p ∈ earlier ++ later -> p.recorded.Bystander := by
    intro p hp
    rcases List.mem_append.mp hp with hmem | hmem
    · exact (hearlier p hmem).bystander
    · exact (hlater p hmem).bystander
  constructor
  · refine ⟨{ provider := provider s.recorded settings, registry := .create moduleName }, ?_, rfl,
      rfl⟩
    rw [List.getElem?_map, List.getElem?_append_right (by rw [List.length_map]), List.length_map,
      Nat.sub_self]
    rfl
  · intro i k hk hi
    rw [List.getElem?_map] at hk
    rcases Option.map_eq_some_iff.mp hk with ⟨p, hp, rfl⟩
    rcases Nat.lt_trichotomy i earlier.length with hlt | heq | hgt
    · rw [List.getElem?_append_left (by rwa [List.length_map]), List.getElem?_map] at hp
      rcases Option.map_eq_some_iff.mp hp with ⟨q, hq, rfl⟩
      exact hmodest (List.mem_append_left _ (List.mem_of_getElem? hq))
    · exact absurd heq hi
    · have hrest : i - earlier.length = (i - earlier.length - 1) + 1 := by omega
      rw [List.getElem?_append_right (by rw [List.length_map]; omega), List.length_map, hrest,
        List.getElem?_cons_succ, List.getElem?_map] at hp
      rcases Option.map_eq_some_iff.mp hp with ⟨q, hq, rfl⟩
      exact hmodest (List.mem_append_right _ (List.mem_of_getElem? hq))

end Hosts

/-- The core module may be loaded among whatever the catalog makes for other modules. -/
theorem hosts_of_catalog {s : Surroundings Membership} {settings : CoreSettings}
    {earlier later : List (BuiltinProvider Membership)}
    (hmade : forall p, p ∈ earlier ++ later -> exists module name properties,
      module ≠ moduleName ∧ (Builtin.catalog s).create module name properties = .ok p) :
    Hosts s settings earlier.length
      ((earlier.map Provider.recorded ++ provider s.recorded settings ::
        later.map Provider.recorded).map fun p =>
          { provider := p, registry := .create p.moduleName }) := by
  have hmodest : forall p, p ∈ earlier ++ later -> p.Modest := by
    intro p hp
    rcases hmade p hp with ⟨module, name, properties, hother, hcreate⟩
    exact Builtin.modest_of_create hcreate hother
  exact hosts_of_modest (fun p hp => hmodest p (List.mem_append_left _ hp))
    (fun p hp => hmodest p (List.mem_append_right _ hp))

end CoreModule

/-!
## A startup, hook by hook

A harmless hook may do no more to the node than let its task go on, and before the task has been
started not even that. A plan in two parts ends with an error in the first part, or goes on to the
second one.
-/

namespace Situation

open CoreModule

/-- A plan in two parts ends with an error in the first one, or goes on to the second one. -/
theorem CarriedOut.of_append {σ V : Type} {order : List Nat} {now last : Situation σ V}
    {first rest done : List Hook} {result : Except ModuleError Unit}
    (h : CarriedOut order now (first ++ rest) done last result) :
    (exists e, result = .error e ∧ CarriedOut order now first done last (.error e)) ∨
      exists middle more, Went order now first middle ∧ done = first ++ more ∧
        CarriedOut order middle rest more last result := by
  cases h with
  | whole hplan =>
      rcases hplan.of_append with ⟨middle, hfirst, hrest⟩
      exact Or.inr ⟨middle, rest, hfirst, rfl, CarriedOut.whole hrest⟩
  | failed hsplit hbefore hfree hm hperform =>
      rcases append_cases hsplit with ⟨_, rfl⟩ | ⟨more, rfl, hrest⟩
      · exact Or.inl ⟨_, rfl, CarriedOut.failed rfl hbefore hfree hm hperform⟩
      · rcases hbefore.of_append with ⟨middle, hfirst, hmore⟩
        exact Or.inr ⟨middle, _, hfirst, List.append_assoc _ _ _,
          CarriedOut.failed hrest hmore hfree hm hperform⟩
  | barred hsplit hbefore hbarrier =>
      rcases append_cases hsplit with ⟨_, rfl⟩ | ⟨more, rfl, hrest⟩
      · exact Or.inl ⟨_, rfl, CarriedOut.barred rfl hbefore hbarrier⟩
      · rcases hbefore.of_append with ⟨middle, hfirst, hmore⟩
        exact Or.inr ⟨middle, more, hfirst, rfl, CarriedOut.barred hrest hmore hbarrier⟩

section Hosted

variable {β : Type} {s : Surroundings β} {settings : CoreSettings} {n : Nat} {order : List Nat}
  {now next last : Situation (Node (β × List Note)) Service} {done plan : List Hook}
  {result : Except ModuleError Unit}

theorem world_perform_prepare {i : Nat} {k : LoadedModule (Node (β × List Note)) Service}
    (order : List Nat) (hk : now.modules[i]? = some k) :
    (now.perform order ⟨.prepare, i⟩).1.world =
      ((k.provider.prepare k.registry now.world).run k.registry).2.1 := by
  unfold perform
  rw [hk]
  dsimp only
  rcases (k.provider.prepare k.registry now.world).run k.registry with ⟨registry, world, outcome⟩
  cases outcome with
  | ok _ => rfl
  | error failure => rfl

def Harmless (n : Nat) (hook : Hook) : Prop := hook.index = n -> hook.phase = .prepare

theorem exists_works_of_perform (hhosts : Hosts s settings n now.modules) (order : List Nat)
    {hook : Hook} (hharmless : Harmless n hook) :
    exists works, (now.perform order hook).1.world.charge = now.world.charge.after works := by
  rcases hook with ⟨phase, i⟩
  cases hk : now.modules[i]? with
  | none =>
      rw [perform_of_missing order hk]
      exact ⟨[], rfl⟩
  | some k =>
      by_cases hi : i = n
      · have hphase : phase = .prepare := hharmless hi
        subst hi hphase
        rcases hhosts.core with ⟨k', hk', _, hprovider⟩
        cases hk.symm.trans hk'
        refine ⟨[], ?_⟩
        rw [world_perform_prepare order hk, hprovider]
        exact charge_prepare settings k.registry
      · have hbystander := hhosts.others i k hk hi
        cases phase with
        | prepare =>
            rw [world_perform_prepare order hk]
            exact hbystander.prepare k.registry now.world
        | start =>
            unfold perform
            rw [hk]
            exact hbystander.start _ now.world
        | afterAllStarted =>
            unfold perform
            rw [hk]
            exact hbystander.afterAllStarted _ now.world
        | stop =>
            unfold perform
            rw [hk]
            exact hbystander.stop now.world

theorem Went.exists_works (h : Went order now done last)
    (hhosts : Hosts s settings n now.modules)
    (hharmless : forall hook, hook ∈ done -> Harmless n hook) :
    exists works, last.world.charge = now.world.charge.after works := by
  induction h with
  | nil now => exact ⟨[], rfl⟩
  | @cons now next last hook rest _ hperform _ ih =>
      have hcast := cast_perform order now hook
      rcases exists_works_of_perform hhosts order (hharmless hook List.mem_cons_self) with
        ⟨works, hworks⟩
      rw [hperform] at hcast hworks
      rcases ih (hhosts.of_cast_eq hcast)
        (fun other hother => hharmless other (List.mem_cons_of_mem hook hother)) with ⟨more, hmore⟩
      refine ⟨works ++ more, ?_⟩
      rw [Charge.after_append, ← hworks]
      exact hmore

theorem CarriedOut.exists_works (h : CarriedOut order now plan done last result)
    (hhosts : Hosts s settings n now.modules)
    (hharmless : forall hook, hook ∈ plan -> Harmless n hook) :
    exists works, last.world.charge = now.world.charge.after works := by
  have hdone : forall hook, hook ∈ done -> Harmless n hook :=
    fun hook hhook => hharmless hook (h.initial.subset hhook)
  rcases h.went_or_failed with hwent | ⟨before, hook, then', failure, rfl, hbefore, hperform⟩
  · exact hwent.exists_works hhosts hdone
  · rcases hbefore.exists_works hhosts
      (fun other hother => hdone other (List.mem_append_left _ hother)) with ⟨works, hworks⟩
    rcases exists_works_of_perform (hhosts.of_cast_eq hbefore.cast_eq) order
      (hdone hook (List.mem_append_right _ List.mem_cons_self)) with ⟨more, hmore⟩
    rw [hperform] at hmore
    refine ⟨works ++ more, ?_⟩
    rw [Charge.after_append, ← hworks]
    exact hmore

theorem CarriedOut.charge_eq (h : CarriedOut order now plan done last result)
    (hhosts : Hosts s settings n now.modules)
    (hharmless : forall hook, hook ∈ plan -> Harmless n hook)
    (htask : now.world.charge.task = none) : last.world.charge = now.world.charge := by
  rcases h.exists_works hhosts hharmless with ⟨works, hworks⟩
  rw [hworks, Charge.after_of_still (Charge.still_of_task_none htask)]

theorem perform_start (hhosts : Hosts s settings n now.modules) (order : List Nat) :
    now.perform order ⟨.start, n⟩ =
      ({ now with world := (start s.recorded settings (now.view order) now.world).1 },
        (start s.recorded settings (now.view order) now.world).2) := by
  rcases hhosts.core with ⟨k, hk, _, hprovider⟩
  unfold perform
  rw [hk]
  dsimp only
  rw [hprovider]
  rfl

theorem perform_afterAllStarted (hhosts : Hosts s settings n now.modules) (order : List Nat) :
    now.perform order ⟨.afterAllStarted, n⟩ =
      ({ now with world := (afterAllStarted settings now.world).1 },
        (afterAllStarted settings now.world).2) := by
  rcases hhosts.core with ⟨k, hk, _, hprovider⟩
  unfold perform
  rw [hk]
  dsimp only
  rw [hprovider]
  rfl

theorem CarriedOut.of_singleton {σ V : Type} {now last : Situation σ V} {hook : Hook}
    {e : ModuleError} (h : CarriedOut order now [hook] done last (.error e)) :
    (done = [] ∧ last = now ∧ now.barrier? hook = some e) ∨
      exists k failure, done = [hook] ∧ now.modules[hook.index]? = some k ∧
        now.perform order hook = (last, .error failure) ∧ e = k.phaseError hook.phase failure := by
  cases h with
  | @failed before after _ _ _ _ _ hsplit hbefore _ hm hperform =>
      rcases List.append_eq_singleton_iff.mp hsplit.symm with ⟨rfl, htail⟩ | ⟨_, hnil⟩
      · cases htail
        cases hbefore
        exact Or.inr ⟨_, _, rfl, hm, hperform, rfl⟩
      · cases hnil
  | barred hsplit hbefore hbarrier =>
      rcases List.append_eq_singleton_iff.mp hsplit.symm with ⟨rfl, htail⟩ | ⟨_, hnil⟩
      · cases htail
        cases hbefore
        exact Or.inl ⟨rfl, rfl, hbarrier⟩
      · cases hnil

theorem Went.of_singleton {σ V : Type} {now last : Situation σ V} {hook : Hook}
    (h : Went order now [hook] last) : now.perform order hook = (last, .ok ()) := by
  cases h with
  | cons _ hperform hrest =>
      cases hrest
      exact hperform

/-!
### From the start of the core module on

Once the core module has started, its task begins when the module is told that all modules have.
-/

variable {middle rest : List Hook}

theorem CarriedOut.entered_or_ticking
    (h : CarriedOut order now (middle ++ ([⟨.afterAllStarted, n⟩] ++ rest)) done last result)
    (hhosts : Hosts s settings n now.modules)
    (hmiddle : forall hook, hook ∈ middle -> Harmless n hook)
    (hrest : forall hook, hook ∈ rest -> Harmless n hook)
    (hentered : now.world.charge = entered settings s.machineHost) :
    last.world.charge = entered settings s.machineHost ∨
      exists works, last.world.charge = (ticking settings s.machineHost).after works := by
  have htask : now.world.charge.task = none := by
    rw [hentered]
    rfl
  rcases h.of_append with ⟨e, _, hstops⟩ | ⟨then', more, hgoes, _, htold⟩
  · left
    rw [hstops.charge_eq hhosts hmiddle htask, hentered]
  · have hthen := (CarriedOut.whole hgoes).charge_eq hhosts hmiddle htask
    rw [hentered] at hthen
    have hhosts' := hhosts.of_cast_eq hgoes.cast_eq
    rcases charge_afterAllStarted s settings hthen with ⟨hcharge, hok⟩
    have hperform := perform_afterAllStarted hhosts' order
    rcases htold.of_append with ⟨e, _, hstops⟩ | ⟨then'', _, hwent, _, hlast⟩
    · rcases hstops.of_singleton with ⟨_, rfl, _⟩ | ⟨k, failure, _, _, hfailed, _⟩
      · exact Or.inl hthen
      · rw [hperform, hok] at hfailed
        cases hfailed
    · right
      have hwell := hwent.of_singleton
      rw [hperform] at hwell
      rcases Prod.mk.inj hwell with ⟨rfl, _⟩
      rcases hlast.exists_works hhosts' hrest with ⟨works, hworks⟩
      refine ⟨works, ?_⟩
      rw [hworks, ← hcharge]

theorem CarriedOut.turnout_of_start
    (h : CarriedOut order now
      ([⟨.start, n⟩] ++ (middle ++ ([⟨.afterAllStarted, n⟩] ++ rest))) done last result)
    (hhosts : Hosts s settings n now.modules)
    (hmiddle : forall hook, hook ∈ middle -> Harmless n hook)
    (hrest : forall hook, hook ∈ rest -> Harmless n hook)
    (huntouched : now.world.charge = untouched) :
    Turnout settings s.machineHost (lookUp (now.view order)) (Hook.mk .start n ∈ done) result
      last.world.charge := by
  have hstarts := starts_start s settings (now.view order) huntouched
  have hperform := perform_start hhosts order
  rcases hhosts.core with ⟨core, hcore, hname, hprovider⟩
  rcases h.of_append with ⟨e, rfl, hstops⟩ | ⟨then', more, hwent, rfl, hlast⟩
  · rcases hstops.of_singleton with ⟨rfl, rfl, _⟩ | ⟨k, failure, rfl, hk, hfailed, rfl⟩
    · rw [huntouched]
      exact Turnout.untouched fun hcalled => nomatch hcalled
    · rw [hperform] at hfailed
      rcases Prod.mk.inj hfailed with ⟨rfl, houtcome⟩
      rw [houtcome] at hstarts
      cases hk.symm.trans hcore
      generalize Node.charge _ = charge at hstarts ⊢
      cases hstarts with
      | lacks hlookUp =>
          refine Turnout.untouched fun _ hfound => ?_
          rw [hlookUp] at hfound
          cases hfound
      | fails e hlookUp hrole =>
          refine Turnout.refused e List.mem_cons_self hlookUp hrole ?_
          rw [LoadedModule.phaseError, hname, hprovider]
          rfl
  · have hwell := hwent.of_singleton
    rw [hperform] at hwell
    rcases Prod.mk.inj hwell with ⟨rfl, houtcome⟩
    rw [houtcome] at hstarts
    have hcalled : Hook.mk .start n ∈ [Hook.mk .start n] ++ more := List.mem_cons_self
    have hentered : lookUp (now.view order) = .ok () ∧
        (start s.recorded settings (now.view order) now.world).1.charge =
          entered settings s.machineHost := by
      generalize Node.charge _ = charge at hstarts ⊢
      cases hstarts with
      | enters hlookUp => exact ⟨hlookUp, rfl⟩
    rcases hlast.entered_or_ticking hhosts hmiddle hrest hentered.right with
      hcharge | ⟨works, hcharge⟩
    · rw [hcharge]
      exact Turnout.entered hcalled hentered.left
    · rw [hcharge]
      exact Turnout.ticking works hcalled hentered.left

theorem CarriedOut.turnout
    (h : CarriedOut order now
      (order.map (Hook.mk .start) ++ order.map (Hook.mk .afterAllStarted)) done last result)
    (hhosts : Hosts s settings n now.modules) (hnodup : order.Nodup) (hn : n ∈ order)
    (huntouched : now.world.charge = untouched) :
    Turnout settings s.machineHost (lookUp (now.view order)) (Hook.mk .start n ∈ done) result
      last.world.charge := by
  rcases List.append_of_mem hn with ⟨earlier, later, rfl⟩
  have hnot := (List.nodup_cons.mp (List.nodup_middle.mp hnodup)).left
  have hapart : forall {phase : Phase} {ns : List Nat}, ns ⊆ earlier ++ later ->
      forall hook, hook ∈ ns.map (Hook.mk phase) -> Harmless n hook := by
    intro phase ns hns hook hhook hindex
    rcases List.mem_map.mp hhook with ⟨i, hi, rfl⟩
    have hi' : i = n := hindex
    exact absurd (hns (hi' ▸ hi)) hnot
  have hearlier : earlier ⊆ earlier ++ later := List.subset_append_left _ _
  have hlater : later ⊆ earlier ++ later := List.subset_append_right _ _
  have hplan : (earlier ++ n :: later).map (Hook.mk .start) ++
      (earlier ++ n :: later).map (Hook.mk .afterAllStarted) =
      earlier.map (Hook.mk .start) ++ ([⟨.start, n⟩] ++
        ((later.map (Hook.mk .start) ++ earlier.map (Hook.mk .afterAllStarted)) ++
          ([⟨.afterAllStarted, n⟩] ++ later.map (Hook.mk .afterAllStarted)))) := by
    simp
  have hmiddle : forall hook,
      hook ∈ later.map (Hook.mk .start) ++ earlier.map (Hook.mk .afterAllStarted) ->
        Harmless n hook := by
    intro hook hhook
    rcases List.mem_append.mp hhook with hmem | hmem
    · exact hapart hlater hook hmem
    · exact hapart hearlier hook hmem
  have hbefore : Hook.mk .start n ∉ earlier.map (Hook.mk .start) := by
    intro hmem
    exact Phase.noConfusion (hapart hearlier _ hmem rfl)
  have htask : now.world.charge.task = none := by
    rw [huntouched]
    rfl
  rw [hplan] at h
  rcases h.of_append with ⟨e, rfl, hstops⟩ | ⟨then', more, hgoes, rfl, hlast⟩
  · rw [hstops.charge_eq hhosts (hapart hearlier) htask, huntouched]
    exact Turnout.untouched fun hcalled => absurd (hstops.initial.subset hcalled) hbefore
  · have hthen := (CarriedOut.whole hgoes).charge_eq hhosts (hapart hearlier) htask
    rw [huntouched] at hthen
    have hmodules : then'.modules = now.modules := by
      apply hgoes.modules_eq
      intro hook hhook
      rcases List.mem_map.mp hhook with ⟨_, _, rfl⟩
      exact Phase.noConfusion
    have hview : then'.view (earlier ++ n :: later) = now.view (earlier ++ n :: later) := by
      unfold view
      rw [hmodules]
    have hturnout := hlast.turnout_of_start (hhosts.of_cast_eq hgoes.cast_eq) hmiddle
      (hapart hlater) hthen
    rw [hview] at hturnout
    rw [List.mem_append, or_iff_right hbefore]
    exact hturnout

end Hosted

end Situation

/-!
## The life of the modules

A module whose start was called is stopped. What is kept by the work of the task and by its stop is
kept by all stops.
-/

namespace Manager

open Situation CoreModule

theorem mem_calls_iff {σ V : Type} {m : Manager σ V} (hnames : m.moduleNames.Nodup) {n : Nat}
    {k : LoadedModule σ V} (hk : m.modules[n]? = some k) {done : List Hook}
    (hdone : forall hook, hook ∈ done -> hook.index < m.modules.length) (phase : Phase) :
    HookCall.mk phase k.name ∈ done.map (callOf m.moduleNames) <-> Hook.mk phase n ∈ done := by
  constructor
  · intro h
    rcases List.mem_map.mp h with ⟨⟨phase', i⟩, hhook, hcall⟩
    rcases exists_of_lt (hdone _ hhook) with ⟨k', hk'⟩
    have hcall' : k'.call phase' = ⟨phase, k.name⟩ := (callOf_names hk' phase').symm.trans hcall
    rcases HookCall.mk.inj hcall' with ⟨rfl, hname⟩
    cases eq_of_name_eq hnames hk hk' hname
    exact hhook
  · intro h
    exact List.mem_map.mpr ⟨_, h, callOf_names hk phase⟩

section Life

variable {β : Type} {s : Surroundings β} {settings : CoreSettings} {n : Nat}
  {m m' : Manager (Node (β × List Note)) Service} {node : Node (β × List Note)}
  {lived : Lived (Node (β × List Note))}

theorem provider_of_core (hnames : m.moduleNames.Nodup) (hhosts : Hosts s settings n m.modules)
    {k : LoadedModule (Node (β × List Note)) Service} (hk : k ∈ m.modules)
    (hname : k.name = moduleName) : k.provider = provider s.recorded settings := by
  rcases hhosts.core with ⟨core, hcore, hcoreName, hprovider⟩
  rcases List.mem_iff_getElem?.mp hk with ⟨i, hi⟩
  cases eq_of_name_eq hnames hcore hi (hname.trans hcoreName.symm)
  cases hi.symm.trans hcore
  exact hprovider

/-- However a startup turns out, it leaves the node in one of four ways. -/
theorem turnout_of_booted (hbooted : Booted m node m' lived) (hnames : m.moduleNames.Nodup)
    (hhosts : Hosts s settings n m.modules) (huntouched : node.charge = untouched) :
    Turnout settings s.machineHost (lookUp m'.view)
      (HookCall.mk .start moduleName ∈ lived.calls) lived.result lived.world.charge := by
  have htask : node.charge.task = none := by
    rw [huntouched]
    rfl
  have hprepares : forall {order : List Nat} (hook : Hook),
      hook ∈ order.map (Hook.mk .prepare) -> Harmless n hook := by
    intro order hook hhook _
    rcases List.mem_map.mp hhook with ⟨_, _, rfl⟩
    rfl
  rcases hhosts.core with ⟨core, hcore, hname, _⟩
  cases hbooted with
  | refused _ =>
      rw [huntouched]
      exact Turnout.untouched fun hcalled => nomatch hcalled
  | unsequenced _ _ =>
      rw [huntouched]
      exact Turnout.untouched fun hcalled => nomatch hcalled
  | halted _ _ hdone =>
      rw [hdone.charge_eq hhosts hprepares htask, huntouched]
      exact Turnout.untouched fun hcalled =>
        absurd hcalled (notMem_start_of_prepares hdone.initial _ _)
  | @launched order done ready last result _ horder hready hdone =>
      have hperm := perm_of_compute_ok hnames horder
      have hns : forall i, i ∈ order -> i < m.modules.length := by
        intro i hi
        simpa using hperm.mem_iff.mp hi
      have hn : n ∈ order := by
        rw [hperm.mem_iff, List.mem_range]
        exact (List.getElem?_eq_some_iff.mp hcore).1
      have hcharge := (CarriedOut.whole hready).charge_eq hhosts hprepares htask
      rw [huntouched] at hcharge
      have hturnout := hdone.turnout (hhosts.of_cast_eq hready.cast_eq)
        (hperm.nodup_iff.mpr List.nodup_range) hn hcharge
      have hinitial := (List.prefix_append_right_inj (order.map (Hook.mk .prepare))).mpr
        hdone.initial
      have hdone' : forall hook, hook ∈ order.map (Hook.mk .prepare) ++ done ->
          hook.index < m.modules.length := by
        intro hook hhook
        apply index_lt_of_mem_schedule hns
        rw [schedule, List.append_assoc]
        exact hinitial.subset hhook
      rw [← hname, mem_calls_iff hnames hcore hdone', List.mem_append,
        or_iff_right (notMem_map_hook (by decide) order n)]
      exact hturnout

theorem mem_modules_of_started {σ V : Type} {m : Manager σ V} {k : LoadedModule σ V}
    (hk : k ∈ m.started) : k ∈ m.modules := by
  rcases List.mem_filterMap.mp hk with ⟨i, _, hi⟩
  exact List.mem_of_getElem? hi

theorem exists_started_of_called (hbooted : Booted m node m' lived) (hnames : m.moduleNames.Nodup)
    {k : LoadedModule (Node (β × List Note)) Service} (hk : m.modules[n]? = some k) {name : String}
    (hcalled : HookCall.mk .start name ∈ lived.calls) :
    exists k', k' ∈ m'.started ∧ k'.name = k.name := by
  cases hbooted with
  | refused _ => cases hcalled
  | unsequenced _ _ => cases hcalled
  | halted _ _ hdone => exact absurd hcalled (notMem_start_of_prepares hdone.initial _ _)
  | @launched order _ ready _ _ _ horder hready _ =>
      rcases exists_of_cast_eq hready.cast_eq.symm hk with ⟨k', hk', hname, _⟩
      refine ⟨k', List.mem_filterMap.mpr ⟨n, ?_, hk'⟩, hname⟩
      show n ∈ order
      rw [(perm_of_compute_ok hnames horder).mem_iff, List.mem_range]
      exact (List.getElem?_eq_some_iff.mp hk).1

theorem stopAll_append {σ V : Type} (first rest : List (LoadedModule σ V)) (world : σ) :
    (stopAll (first ++ rest) world).1 = (stopAll rest (stopAll first world).1).1 := by
  induction first generalizing world with
  | nil => rfl
  | cons k more ih => exact ih (k.provider.stop world).1

theorem stopAll_keeps {P : Charge -> Prop} (hworks : forall c works, P c -> P (c.after works))
    (hstops : forall c, P c -> P c.stopped)
    {modules : List (LoadedModule (Node (β × List Note)) Service)}
    (hmodules : forall k, k ∈ modules ->
      k.provider.Bystander ∨ k.provider = provider s.recorded settings)
    (node : Node (β × List Note)) (h : P node.charge) : P (stopAll modules node).1.charge := by
  induction modules generalizing node with
  | nil => exact h
  | cons k rest ih =>
      apply ih fun k' hk' => hmodules k' (List.mem_cons_of_mem k hk')
      rcases hmodules k List.mem_cons_self with hbystander | hcore
      · rcases hbystander.stop node with ⟨works, hcharge⟩
        rw [hcharge]
        exact hworks _ works h
      · rw [hcore]
        show P node.stopTask.charge
        rw [Node.charge_stopTask]
        exact hstops _ h

theorem stopAll_idle {c : Charge} (htask : c.task = none)
    {modules : List (LoadedModule (Node (β × List Note)) Service)}
    (hmodules : forall k, k ∈ modules ->
      k.provider.Bystander ∨ k.provider = provider s.recorded settings)
    {node : Node (β × List Note)} (hnode : node.charge = c) :
    (stopAll modules node).1.charge = c := by
  refine stopAll_keeps (P := fun other => other = c) ?_ ?_ hmodules node hnode
  · rintro other works rfl
    exact Charge.after_of_still (Charge.still_of_task_none htask) works
  · rintro other rfl
    exact Charge.stopped_of_task_none htask

def beforeCore {σ V : Type} (modules : List (LoadedModule σ V)) : List (LoadedModule σ V) :=
  modules.takeWhile fun k => k.name != moduleName

theorem exists_split_of_core {σ V : Type} {modules : List (LoadedModule σ V)}
    (h : exists k, k ∈ modules ∧ k.name = moduleName) :
    exists core later, modules = beforeCore modules ++ core :: later ∧ core.name = moduleName := by
  induction modules with
  | nil =>
      rcases h with ⟨_, hk, _⟩
      cases hk
  | cons first rest ih =>
      unfold beforeCore
      by_cases hname : first.name = moduleName
      · refine ⟨first, rest, ?_, hname⟩
        rw [List.takeWhile_cons_of_neg (by simp [hname])]
        rfl
      · have hrest : exists k, k ∈ rest ∧ k.name = moduleName := by
          rcases h with ⟨k, hk, hcore⟩
          rcases List.mem_cons.mp hk with rfl | hmem
          · exact absurd hcore hname
          · exact ⟨k, hmem, hcore⟩
        rcases ih hrest with ⟨core, later, hsplit, hcore⟩
        refine ⟨core, later, ?_, hcore⟩
        rw [List.takeWhile_cons_of_pos (by simp [hname])]
        exact congrArg (List.cons first) hsplit

/-- Once the core module has been stopped, the task is still, and nothing more is written down. -/
theorem charge_stopAll_of_core
    {modules : List (LoadedModule (Node (β × List Note)) Service)}
    (hmodules : forall k, k ∈ modules ->
      k.provider.Bystander ∨ k.provider = provider s.recorded settings)
    (hcore : forall k, k ∈ modules -> k.name = moduleName ->
      k.provider = provider s.recorded settings)
    (hexists : exists k, k ∈ modules ∧ k.name = moduleName) (node : Node (β × List Note)) :
    (stopAll modules node).1.charge.Still ∧
      (stopAll modules node).1.charge.notes =
        (stopAll (beforeCore modules) node).1.charge.notes := by
  rcases exists_split_of_core hexists with ⟨core, later, hsplit, hname⟩
  generalize beforeCore modules = first at hsplit ⊢
  subst hsplit
  have hprovider := hcore core (List.mem_append_right _ List.mem_cons_self) hname
  have hlater : forall k, k ∈ later ->
      k.provider.Bystander ∨ k.provider = provider s.recorded settings :=
    fun k hk => hmodules k (List.mem_append_right _ (List.mem_cons_of_mem core hk))
  have hstopped : (core.provider.stop (stopAll first node).1).1.charge =
      (stopAll first node).1.charge.stopped := by
    rw [hprovider]
    exact Node.charge_stopTask _
  rw [stopAll_append]
  apply stopAll_keeps (P := fun c =>
    c.Still ∧ c.notes = (stopAll first node).1.charge.notes) ?_ ?_ hlater
  · rw [hstopped]
    exact ⟨Charge.still_stopped _, Charge.notes_stopped _⟩
  · intro c works h
    rw [Charge.after_of_still h.left]
    exact h
  · intro c h
    exact ⟨Charge.still_stopped c, (Charge.notes_stopped c).trans h.right⟩

/-!
## The role of a node

Without a task nothing becomes of a node. With one, what is kept by the work of the task and by its
stop is kept from the startup to the end.
-/

/-- A node serves between its startup and its shutdown, and may go on with its work, as far as there
is any left, afterwards. -/
structure Serves (m : Manager (Node (β × List Note)) Service)
    (node before after : Node (β × List Note)) : Prop where
  works : exists works, before.charge = (m.bootstrap node).2.world.charge.after works
  stops : exists works, after.charge = ((m.bootstrap node).1.shutdown before).1.charge.after works

/-- What a node does according to its role. -/
structure KeepsRole (s : Surroundings β) (settings : CoreSettings)
    (m : Manager (Node (β × List Note)) Service) (node before after : Node (β × List Note)) :
    Prop where
  /-- A node that others may turn to is registered once, if its core module finds the others. -/
  once : settings.role = .mixed ∨ settings.role = .aggregator ->
    HookCall.mk .start moduleName ∈ (m.bootstrap node).2.calls ->
    lookUp (m.bootstrap node).1.view = .ok () ->
      exists target answer, registrations after.charge.notes = [(target, answer)] ∧
        target.key = settings.registeredKey s.machineHost
  /-- A receiver is never registered, and neither is a node that does not come as far. -/
  never : settings.role = .receiver ∨
    HookCall.mk .start moduleName ∉ (m.bootstrap node).2.calls ∨
    lookUp (m.bootstrap node).1.view ≠ .ok () -> registrations after.charge.notes = []
  /-- A node that is refused does not start, and its reconciler never does anything. -/
  refused : forall target e, (target, Except.error e) ∈ registrations after.charge.notes ->
    (m.bootstrap node).2.result =
        .error (.moduleStart moduleName "default" .start (registrationFailure e)) ∧
      (m.bootstrap node).2.world.task = none ∧ before.task = none ∧ after.task = none ∧
      after.charge.notes = [Note.registered target (.error e)]
  serving : SelfView settings s.machineHost before.charge
  stopped : SelfView settings s.machineHost after.charge
  /-- From the stop of the core module on its task is over, and nothing happens any more. -/
  silent : after.charge.Still ∧ after.charge.notes =
    (stopAll (beforeCore (m.bootstrap node).1.started.reverse) before).1.charge.notes
  /-- While the node serves, a tick is works of the core module's charge; afterwards it is none. -/
  ticks : forall now, before.TicksByWork s now
  rests : forall now, after.forget.tick s now = after.forget

theorem bystander_or_core_of_started (hnames : m.moduleNames.Nodup)
    (hhosts : Hosts s settings n m.modules) (node : Node (β × List Note))
    {k : LoadedModule (Node (β × List Note)) Service}
    (hk : k ∈ (m.bootstrap node).1.started.reverse) :
    k.provider.Bystander ∨ k.provider = provider s.recorded settings := by
  have hhosts' := hhosts.of_cast_eq (booted_bootstrap hnames node).cast_eq
  exact hhosts'.bystander_or_core (mem_modules_of_started (List.mem_reverse.mp hk))

section Served

variable {before after : Node (β × List Note)}
  (hmodules : forall k, k ∈ (m.bootstrap node).1.started.reverse ->
    k.provider.Bystander ∨ k.provider = provider s.recorded settings)

include hmodules

theorem Serves.keeps (h : Serves m node before after) {P : Charge -> Prop}
    (hworks : forall c works, P c -> P (c.after works)) (hstops : forall c, P c -> P c.stopped)
    (hbooted : P (m.bootstrap node).2.world.charge) : P before.charge ∧ P after.charge := by
  rcases h with ⟨⟨works, hbefore⟩, ⟨more, hafter⟩⟩
  have hserving : P before.charge := by
    rw [hbefore]
    exact hworks _ works hbooted
  constructor
  · exact hserving
  · rw [hafter]
    exact hworks _ more (stopAll_keeps hworks hstops hmodules before hserving)

theorem Serves.registrations_eq (h : Serves m node before after) :
    registrations after.charge.notes =
      registrations (m.bootstrap node).2.world.charge.notes := by
  refine (h.keeps hmodules (P := fun c => registrations c.notes =
    registrations (m.bootstrap node).2.world.charge.notes) ?_ ?_ rfl).right
  · intro c works hc
    rw [Charge.registrations_after]
    exact hc
  · intro c hc
    rw [Charge.notes_stopped]
    exact hc

theorem Serves.idle (h : Serves m node before after) {c : Charge} (htask : c.task = none)
    (hbooted : (m.bootstrap node).2.world.charge = c) : before.charge = c ∧ after.charge = c := by
  rcases h with ⟨⟨works, hbefore⟩, ⟨more, hafter⟩⟩
  have hstill := Charge.still_of_task_none htask
  rw [hbooted, Charge.after_of_still hstill] at hbefore
  have hstops : ((m.bootstrap node).1.shutdown before).1.charge = c :=
    stopAll_idle htask hmodules hbefore
  rw [hstops, Charge.after_of_still hstill] at hafter
  exact ⟨hbefore, hafter⟩

theorem Serves.silent_of_core (h : Serves m node before after)
    (hcore : forall k, k ∈ (m.bootstrap node).1.started.reverse -> k.name = moduleName ->
      k.provider = provider s.recorded settings)
    (hexists : exists k, k ∈ (m.bootstrap node).1.started.reverse ∧ k.name = moduleName) :
    after.charge.Still ∧ after.charge.notes =
      (stopAll (beforeCore (m.bootstrap node).1.started.reverse) before).1.charge.notes := by
  rcases h.stops with ⟨works, hafter⟩
  have hstops := charge_stopAll_of_core hmodules hcore hexists before
  have hstill : ((m.bootstrap node).1.shutdown before).1.charge.Still := hstops.left
  rw [Charge.after_of_still hstill] at hafter
  rw [hafter]
  exact hstops

theorem Serves.silent_of_idle (h : Serves m node before after) {c : Charge}
    (htask : c.task = none) (hbooted : (m.bootstrap node).2.world.charge = c) :
    after.charge.Still ∧ after.charge.notes =
      (stopAll (beforeCore (m.bootstrap node).1.started.reverse) before).1.charge.notes := by
  rcases h.idle hmodules htask hbooted with ⟨hbefore, hafter⟩
  have hstops : (stopAll (beforeCore (m.bootstrap node).1.started.reverse) before).1.charge = c :=
    stopAll_idle htask (fun k hk => hmodules k (List.takeWhile_subset _ hk)) hbefore
  rw [hafter]
  exact ⟨Charge.still_of_task_none htask, (congrArg Charge.notes hstops).symm⟩

end Served

theorem Serves.silent {m : Manager (Node (β × List Note)) Service}
    {node before after : Node (β × List Note)} (h : Serves m node before after)
    (hnames : m.moduleNames.Nodup) (hhosts : Hosts s settings n m.modules)
    (huntouched : node.charge = untouched) :
    after.charge.Still ∧ after.charge.notes =
      (stopAll (beforeCore (m.bootstrap node).1.started.reverse) before).1.charge.notes := by
  have hbooted := booted_bootstrap hnames node
  have hmodules : forall k, k ∈ (m.bootstrap node).1.started.reverse ->
      k.provider.Bystander ∨ k.provider = provider s.recorded settings :=
    fun _ hk => bystander_or_core_of_started hnames hhosts node hk
  by_cases hcalled : HookCall.mk .start moduleName ∈ (m.bootstrap node).2.calls
  · rcases hhosts.core with ⟨core, hcore, hname, _⟩
    rcases exists_started_of_called hbooted hnames hcore hcalled with ⟨k, hk, hname'⟩
    have hnames' : (m.bootstrap node).1.moduleNames.Nodup := by
      have hsame : (m.bootstrap node).1.moduleNames = m.moduleNames :=
        names_eq_of_cast_eq hbooted.cast_eq
      rw [hsame]
      exact hnames
    have hcores : forall k, k ∈ (m.bootstrap node).1.started.reverse -> k.name = moduleName ->
        k.provider = provider s.recorded settings :=
      fun k hk => provider_of_core hnames' (hhosts.of_cast_eq hbooted.cast_eq)
        (mem_modules_of_started (List.mem_reverse.mp hk))
    exact h.silent_of_core hmodules hcores
      ⟨k, List.mem_reverse.mpr hk, hname'.trans hname⟩
  · have hturnout := turnout_of_booted hbooted hnames hhosts huntouched
    exact h.silent_of_idle hmodules rfl (eq_untouched_of_turnout hturnout hcalled)

theorem keepsRole_of_serves {m : Manager (Node (β × List Note)) Service}
    {node before after : Node (β × List Note)} (hnames : m.moduleNames.Nodup)
    (hhosts : Hosts s settings n m.modules) (huntouched : node.charge = untouched)
    (hserves : Serves m node before after) : KeepsRole s settings m node before after := by
  have hbooted := booted_bootstrap hnames node
  have hturnout := turnout_of_booted hbooted hnames hhosts huntouched
  have hmodules : forall k, k ∈ (m.bootstrap node).1.started.reverse ->
      k.provider.Bystander ∨ k.provider = provider s.recorded settings :=
    fun _ hk => bystander_or_core_of_started hnames hhosts node hk
  have hregistrations := hserves.registrations_eq hmodules
  have hkept := hserves.keeps hmodules (fun _ works h => h.after works) (fun _ h => h.stopped)
    (kept_of_turnout hturnout)
  have hsilent := hserves.silent hnames hhosts huntouched
  constructor
  · intro hrole hcalled hfound
    have hregisters : settings.role.registersSelf = true := by
      rcases hrole with hrole | hrole
      · rw [hrole]
        rfl
      · rw [hrole]
        rfl
    rcases key_of_mem_registrations hturnout hregisters hcalled hfound with ⟨answer, hanswer⟩
    exact ⟨_, answer, hregistrations.trans hanswer, key_announcement settings s.machineHost⟩
  · intro hnot
    exact hregistrations.trans (registrations_eq_nil hturnout hnot)
  · intro target e hmem
    rw [hregistrations] at hmem
    rcases eq_refused_of_mem_registrations hturnout hmem with ⟨hcharge, htarget, hresult⟩
    rcases hserves.idle hmodules rfl hcharge with ⟨hbefore, hafter⟩
    refine ⟨hresult, congrArg Charge.task hcharge, congrArg Charge.task hbefore,
      congrArg Charge.task hafter, ?_⟩
    rw [htarget]
    exact congrArg Charge.notes hafter
  · exact selfView_of_kept hkept.left
  · exact selfView_of_kept hkept.right
  · exact hsilent
  · exact before.ticksByWork s
  · exact Node.tick_of_still hsilent.left s

end Life

/-!
### A node that is a cluster of its own
-/

def working {β : Type} (node : Node (β × List Note)) (works : List Work) :
    Node (β × List Note) :=
  { members := (node.members.1, (node.charge.after works).notes)
    reconciler := (node.charge.after works).reconciler
    task := (node.charge.after works).task
    signals := node.signals }

def seclusion : Surroundings Membership :=
  { source := Membership.source fun _ => .error .notFound
    machineHost := "10.0.0.7"
    listen := fun _ => .ok ()
    connect := fun _ _ => .error (.config "unreachable") }

def secluded : Manager (Node (Membership × List Note)) Service :=
  { modules :=
      [TelemetryModule.none.recorded, ClusterModule.standalone.recorded,
        provider seclusion.recorded .default].map fun p =>
          { provider := p, registry := .create p.moduleName }
    sequence := []
    preparing := true }

def hermit : Node (Membership × List Note) := (Node.start (.standalone none)).keeping []

/-- The node in the middle of its second run, whose query has not been answered. -/
def hermitServing : Node (Membership × List Note) :=
  working (secluded.bootstrap hermit).2.world
    [.begins 0, .granted, .told (.ok [CoreSettings.default.advertised "10.0.0.7"]), .settles,
      .begins (Time.seconds 5), .granted]

def publishedList? : Note -> Option (List PeerId)
  | .did (.published next) => some next
  | _ => none

theorem hosts_secluded : Hosts seclusion .default 2 secluded.modules := by
  have hmade : forall p, p ∈ [TelemetryModule.none, ClusterModule.standalone] ++ [] ->
      exists module name properties, module ≠ moduleName ∧
        (Builtin.catalog seclusion).create module name properties = .ok p := by
    intro p hp
    rcases List.mem_pair.mp hp with rfl | rfl
    · exact ⟨TelemetryModule.moduleName, "none", .nil, by decide, rfl⟩
    · exact ⟨ClusterModule.moduleName, "standalone", .nil, by decide, rfl⟩
  exact hosts_of_catalog hmade

/-- The node registers, publishes a list with itself in it and is stopped in its second run. -/
theorem keepsRole_of_hermit :
    secluded.moduleNames.Nodup ∧ Hosts seclusion .default 2 secluded.modules ∧
      hermit.charge = untouched ∧
      Serves secluded hermit hermitServing
        ((secluded.bootstrap hermit).1.shutdown hermitServing).1 ∧
      hermitServing.charge.notes.filterMap publishedList? = [[0]] ∧
      KeepsRole seclusion .default secluded hermit hermitServing
        ((secluded.bootstrap hermit).1.shutdown hermitServing).1 := by
  have hnames : secluded.moduleNames.Nodup := by decide
  have hserves : Serves secluded hermit hermitServing
      ((secluded.bootstrap hermit).1.shutdown hermitServing).1 := by
    constructor
    · exact ⟨_, rfl⟩
    · exact ⟨[], rfl⟩
  refine ⟨hnames, hosts_secluded, rfl, hserves, by decide +kernel, ?_⟩
  exact keepsRole_of_serves hnames hosts_secluded rfl hserves

end Manager
end ClusterNode
