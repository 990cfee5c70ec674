import ClusterNode.Proofs.Startup.Sequence
import ClusterNode.Startup.Manager

/-!
# The hooks of a startup

A startup has a schedule: all modules prepare, then all start, then all are told that everything has
started, each time in startup order. It is carried out hook by hook, up to its end, up to the first
hook that fails, or up to a start that is barred because the module has not registered all that it
promised.
-/

namespace ClusterNode

structure Hook where
  phase : Phase
  index : Nat
  deriving DecidableEq, Repr

structure Situation (σ V : Type) where
  modules : List (LoadedModule σ V)
  world : σ

def schedule (order : List Nat) : List Hook :=
  order.map (Hook.mk .prepare) ++ order.map (Hook.mk .start) ++
    order.map (Hook.mk .afterAllStarted)

def Manager.prepared {σ V : Type} (modules : List (LoadedModule σ V)) (order : List Nat) :
    Manager σ V :=
  { modules, sequence := order, preparing := false }

namespace Situation

variable {σ V : Type}

def view (order : List Nat) (s : Situation σ V) : ModulesView V :=
  (Manager.prepared s.modules order).view

/-- The modules and the world after a hook, and whether it went well. -/
def perform (order : List Nat) (s : Situation σ V) (h : Hook) :
    Situation σ V × Except Failure Unit :=
  match s.modules[h.index]? with
  | none => (s, .ok ())
  | some m =>
      match h.phase with
      | .prepare =>
          match (m.provider.prepare m.registry s.world).run m.registry with
          | (registry, world, .ok ()) =>
              ({ modules := s.modules.set h.index { m with registry := registry.freeze }, world },
                .ok ())
          | (registry, world, .error failure) =>
              ({ modules := s.modules.set h.index { m with registry }, world }, .error failure)
      | .start =>
          ({ s with world := (m.provider.start (s.view order) s.world).1 },
            (m.provider.start (s.view order) s.world).2)
      | .afterAllStarted =>
          ({ s with world := (m.provider.afterAllStarted (s.view order) s.world).1 },
            (m.provider.afterAllStarted (s.view order) s.world).2)
      | .stop =>
          ({ s with world := (m.provider.stop s.world).1 }, (m.provider.stop s.world).2)

/-- A start is barred while something is missing that its module has promised. -/
def barrier? (s : Situation σ V) (h : Hook) : Option ModuleError :=
  match h.phase, s.modules[h.index]? with
  | .start, some m =>
      match m.registry.requireAll m.provider.promises with
      | .error e => some e
      | .ok () => none
  | _, _ => none

inductive Went (order : List Nat) : Situation σ V -> List Hook -> Situation σ V -> Prop where
  | nil (s : Situation σ V) : Went order s [] s
  | cons {s next last : Situation σ V} {h : Hook} {rest : List Hook} :
      s.barrier? h = none -> s.perform order h = (next, .ok ()) -> Went order next rest last ->
        Went order s (h :: rest) last

/-- How far a plan is carried out: the hooks that are called, what is there afterwards, and the
answer. -/
inductive CarriedOut (order : List Nat) (s : Situation σ V) (plan : List Hook) :
    List Hook -> Situation σ V -> Except ModuleError Unit -> Prop where
  | whole {last : Situation σ V} :
      Went order s plan last -> CarriedOut order s plan plan last (.ok ())
  | failed {before after : List Hook} {h : Hook} {now last : Situation σ V} {failure : Failure}
      {m : LoadedModule σ V} :
      plan = before ++ h :: after -> Went order s before now -> now.barrier? h = none ->
        now.modules[h.index]? = some m -> now.perform order h = (last, .error failure) ->
          CarriedOut order s plan (before ++ [h]) last (.error (m.phaseError h.phase failure))
  | barred {before after : List Hook} {h : Hook} {now : Situation σ V} {e : ModuleError} :
      plan = before ++ h :: after -> Went order s before now -> now.barrier? h = some e ->
        CarriedOut order s plan before now (.error e)

/-!
## Plans in parts

After an error nothing of what would follow is done, and when a hook of the second part of a plan is
called, the whole first part has gone well.
-/

variable {order : List Nat} {s next last : Situation σ V} {done plan rest : List Hook}
  {result : Except ModuleError Unit}

theorem Went.append {more : List Hook} (h : Went order s done next)
    (hmore : Went order next more last) : Went order s (done ++ more) last := by
  induction h with
  | nil s => exact hmore
  | cons hfree hperform _ ih => exact Went.cons hfree hperform (ih hmore)

theorem CarriedOut.after (h : CarriedOut order next plan done last result) {first : List Hook}
    (hfirst : Went order s first next) :
    CarriedOut order s (first ++ plan) (first ++ done) last result := by
  cases h with
  | whole hplan => exact CarriedOut.whole (hfirst.append hplan)
  | failed hsplit hbefore hfree hm hperform =>
      subst hsplit
      rw [← List.append_assoc, ← List.append_assoc]
      exact CarriedOut.failed rfl (hfirst.append hbefore) hfree hm hperform
  | barred hsplit hbefore hbarrier =>
      subst hsplit
      rw [← List.append_assoc]
      exact CarriedOut.barred rfl (hfirst.append hbefore) hbarrier

theorem CarriedOut.went (h : CarriedOut order s plan done last (.ok ())) :
    done = plan ∧ Went order s plan last := by
  cases h with
  | whole hplan => exact ⟨rfl, hplan⟩

theorem CarriedOut.stopped {e : ModuleError}
    (h : CarriedOut order s plan done last (.error e)) (more : List Hook) :
    CarriedOut order s (plan ++ more) done last (.error e) := by
  cases h with
  | failed hsplit hbefore hfree hm hperform =>
      subst hsplit
      rw [List.append_assoc]
      exact CarriedOut.failed rfl hbefore hfree hm hperform
  | barred hsplit hbefore hbarrier =>
      subst hsplit
      rw [List.append_assoc]
      exact CarriedOut.barred rfl hbefore hbarrier

theorem CarriedOut.cons {h : Hook} (hfree : s.barrier? h = none)
    (hperform : s.perform order h = (next, .ok ()))
    (hrest : CarriedOut order next rest done last result) :
    CarriedOut order s (h :: rest) (h :: done) last result :=
  hrest.after (Went.cons hfree hperform (Went.nil next))

theorem CarriedOut.fails {h : Hook} {failure : Failure} {m : LoadedModule σ V}
    (hfree : s.barrier? h = none) (hm : s.modules[h.index]? = some m)
    (hperform : s.perform order h = (last, .error failure)) (rest : List Hook) :
    CarriedOut order s (h :: rest) [h] last (.error (m.phaseError h.phase failure)) :=
  CarriedOut.failed (List.nil_append (h :: rest)).symm (Went.nil s) hfree hm hperform

theorem CarriedOut.initial (h : CarriedOut order s plan done last result) : done <+: plan := by
  cases h with
  | whole _ => exact List.prefix_refl _
  | @failed before after h _ _ _ _ hsplit _ _ _ _ =>
      rw [hsplit]
      exact ⟨after, List.append_assoc before [h] after⟩
  | barred hsplit _ _ =>
      rw [hsplit]
      exact List.prefix_append _ _

theorem Went.of_append {more : List Hook} (h : Went order s (done ++ more) last) :
    exists middle, Went order s done middle ∧ Went order middle more last := by
  induction done generalizing s with
  | nil => exact ⟨s, Went.nil s, h⟩
  | cons first rest ih =>
      cases h with
      | cons hfree hperform hrest =>
          rcases ih hrest with ⟨middle, hdone, hmore⟩
          exact ⟨middle, Went.cons hfree hperform hdone, hmore⟩

/-- Whatever is called after the first part of a plan, that part has gone well before. -/
theorem CarriedOut.went_first {first : List Hook}
    (h : CarriedOut order s (first ++ rest) done last result) {hook : Hook} (hdone : hook ∈ done)
    (hlater : hook ∉ first) : exists middle, Went order s first middle := by
  have hof : forall {before after : List Hook} {next : Hook} {now : Situation σ V},
      first ++ rest = before ++ next :: after -> hook ∈ before ++ [next] ->
        Went order s before now -> exists middle, Went order s first middle := by
    intro before after next now hsplit hmem hbefore
    rcases List.append_eq_append_iff.mp hsplit with ⟨more, hfirst, _⟩ | ⟨more, hfirst, hmore⟩
    · subst hfirst
      rcases hbefore.of_append with ⟨middle, hmiddle, _⟩
      exact ⟨middle, hmiddle⟩
    · cases more with
      | nil =>
          rw [List.append_nil] at hfirst
          exact ⟨now, hfirst ▸ hbefore⟩
      | cons head tail =>
          cases List.head_eq_of_cons_eq hmore
          exfalso
          apply hlater
          rw [hfirst]
          rcases List.mem_append.mp hmem with hold | hnew
          · exact List.mem_append_left _ hold
          · rw [List.mem_singleton.mp hnew]
            exact List.mem_append_right _ List.mem_cons_self
  cases h with
  | whole hplan =>
      rcases hplan.of_append with ⟨middle, hmiddle, _⟩
      exact ⟨middle, hmiddle⟩
  | failed hsplit hbefore _ _ _ => exact hof hsplit hdone hbefore
  | barred hsplit hbefore _ => exact hof hsplit (List.mem_append_left _ hdone) hbefore

/-!
## Hooks of one module

The cast of a startup is what it does not change of the modules: their order, their names and their
providers. What bars a start is the first capability, as declared, that the module has promised and
not registered.
-/

variable {modules : List (LoadedModule σ V)} {world : σ} {n : Nat} {m : LoadedModule σ V}

def names (modules : List (LoadedModule σ V)) : List String := modules.map LoadedModule.name

def cast (modules : List (LoadedModule σ V)) : List (String × Provider σ V) :=
  modules.map fun m => (m.name, m.provider)

def callOf (names : List String) (h : Hook) : HookCall :=
  { phase := h.phase, moduleName := names.getD h.index "" }

theorem exists_of_lt (hn : n < modules.length) : exists m, modules[n]? = some m :=
  ⟨modules[n], List.getElem?_eq_getElem hn⟩

theorem callOf_names (hm : modules[n]? = some m) (phase : Phase) :
    callOf (names modules) ⟨phase, n⟩ = m.call phase := by
  simp [callOf, names, hm, LoadedModule.call]

theorem names_eq_of_cast_eq {modules' : List (LoadedModule σ V)}
    (h : cast modules' = cast modules) : names modules' = names modules := by
  have hfst := congrArg (List.map Prod.fst) h
  simpa only [cast, names, List.map_map, Function.comp_def] using hfst

theorem exists_of_cast_eq {modules' : List (LoadedModule σ V)}
    (h : cast modules' = cast modules) (hm : modules'[n]? = some m) :
    exists m', modules[n]? = some m' ∧ m'.name = m.name ∧ m'.provider = m.provider := by
  have hget : (cast modules)[n]? = some (m.name, m.provider) := by
    rw [← h, cast, List.getElem?_map, hm]
    rfl
  rw [cast, List.getElem?_map] at hget
  rcases Option.map_eq_some_iff.mp hget with ⟨m', hm', heq⟩
  rcases Prod.mk.inj heq with ⟨hname, hprovider⟩
  exact ⟨m', hm', hname, hprovider⟩

theorem cast_set {registry : Registry V} (hm : modules[n]? = some m)
    (howner : registry.owner = m.name) :
    cast (modules.set n { m with registry }) = cast modules := by
  have hcast : (cast modules)[n]? = some (m.name, m.provider) := by
    rw [cast, List.getElem?_map, hm]
    rfl
  rcases List.getElem?_eq_some_iff.mp hcast with ⟨hlt, hget⟩
  rw [cast, List.map_set]
  show (cast modules).set n (registry.owner, m.provider) = cast modules
  rw [howner, ← hget, List.set_getElem_self]

theorem cast_perform (order : List Nat) (s : Situation σ V) (h : Hook) :
    cast (s.perform order h).1.modules = cast s.modules := by
  unfold perform
  cases hm : s.modules[h.index]? with
  | none => rfl
  | some m =>
      cases h.phase with
      | prepare =>
          have howner := Preparation.owner_run (m.provider.prepare m.registry s.world) m.registry
          dsimp only
          split
          · rename_i hrun
            rw [hrun] at howner
            exact cast_set hm howner
          · rename_i hrun
            rw [hrun] at howner
            exact cast_set hm howner
      | start => rfl
      | afterAllStarted => rfl
      | stop => rfl

theorem Went.cast_eq (h : Went order s done last) : cast last.modules = cast s.modules := by
  induction h with
  | nil s => rfl
  | @cons s next last hook rest _ hperform _ ih =>
      have hnext := cast_perform order s hook
      rw [hperform] at hnext
      exact ih.trans hnext

theorem requireAll_eq_error {r : Registry V} {promised : List Capability} {e : ModuleError}
    (h : r.requireAll promised = .error e) :
    exists earlier missing later, promised = earlier ++ missing :: later ∧
      (forall c, c ∈ earlier -> r.contains c = true) ∧ r.contains missing = false ∧
      e = .serviceNotProvided r.owner missing := by
  unfold Registry.requireAll at h
  split at h
  · rename_i missing hfind
    cases h
    rcases List.find?_eq_some_iff_append.mp hfind with ⟨hmissing, earlier, later, hsplit, hall⟩
    refine ⟨earlier, missing, later, hsplit, ?_, ?_, rfl⟩
    · intro c hc
      simpa using hall c hc
    · simpa using hmissing
  · cases h

theorem barrier?_eq_some {h : Hook} {e : ModuleError} (hbarrier : s.barrier? h = some e) :
    h.phase = .start ∧ exists m earlier missing later, s.modules[h.index]? = some m ∧
      m.provider.promises = earlier ++ missing :: later ∧
      (forall c, c ∈ earlier -> m.registry.contains c = true) ∧
      m.registry.contains missing = false ∧ e = .serviceNotProvided m.name missing := by
  unfold barrier? at hbarrier
  split at hbarrier
  · rename_i m hphase hm
    split at hbarrier
    · rename_i hrequire
      cases hbarrier
      rcases requireAll_eq_error hrequire with ⟨earlier, missing, later, hsplit, hall, hnot, he⟩
      exact ⟨hphase, m, earlier, missing, later, hm, hsplit, hall, hnot, he⟩
    · cases hbarrier
  · cases hbarrier

/-!
## Phases

A phase begins with the hook of its first module. When that hook fails the phase is over, and
otherwise it goes on with the next module. A registry is frozen after the prepare of its module, and
a module starts only if it has all that it promised.
-/

open Manager

/-- What is there after a plan, what was written down and what came out of it. -/
def Yields (order : List Nat) (s : Situation σ V) (plan : List Hook)
    (modules : List (LoadedModule σ V)) (lived : Lived σ) : Prop :=
  exists done, CarriedOut order s plan done { modules, world := lived.world } lived.result ∧
    lived.calls = done.map (callOf (names s.modules))

theorem Yields.nil (order : List Nat) (modules : List (LoadedModule σ V)) (world : σ) :
    Yields order { modules, world } [] modules { world, calls := [], result := .ok () } :=
  ⟨[], CarriedOut.whole (Went.nil _), rfl⟩

theorem Yields.fails {phase : Phase} {failure : Failure} (hm : s.modules[n]? = some m)
    (hfree : s.barrier? ⟨phase, n⟩ = none)
    (hperform : s.perform order ⟨phase, n⟩ = (last, .error failure)) (rest : List Nat) :
    Yields order s ((n :: rest).map (Hook.mk phase)) last.modules
      { world := last.world, calls := [m.call phase]
        result := .error (m.phaseError phase failure) } := by
  refine ⟨[⟨phase, n⟩], ?_, ?_⟩
  · exact CarriedOut.fails hfree hm hperform (rest.map (Hook.mk phase))
  · rw [List.map_singleton, callOf_names hm]

theorem Yields.cons {phase : Phase} {rest : List Nat} {lived : Lived σ}
    (hm : s.modules[n]? = some m) (hfree : s.barrier? ⟨phase, n⟩ = none)
    (hperform : s.perform order ⟨phase, n⟩ = (next, .ok ()))
    (hrest : Yields order next (rest.map (Hook.mk phase)) modules lived) :
    Yields order s ((n :: rest).map (Hook.mk phase)) modules
      { lived with calls := m.call phase :: lived.calls } := by
  rcases hrest with ⟨done, hdone, hcalls⟩
  have hcast := cast_perform order s ⟨phase, n⟩
  rw [hperform] at hcast
  refine ⟨⟨phase, n⟩ :: done, CarriedOut.cons hfree hperform hdone, ?_⟩
  rw [List.map_cons, callOf_names hm, hcalls, names_eq_of_cast_eq hcast]

theorem Yields.andThen {following : List Hook} {lived : Lived σ} {go : σ -> Lived σ}
    (h : Yields order s plan modules lived)
    (hfollowing : forall world,
      Yields order { modules, world } following modules (go world)) :
    Yields order s (plan ++ following) modules (lived.andThen go) := by
  rcases h with ⟨done, hdone, hcalls⟩
  rcases lived with ⟨world, calls, result⟩
  cases result with
  | error e => exact ⟨done, hdone.stopped following, hcalls⟩
  | ok _ =>
      rcases hdone.went with ⟨rfl, hwent⟩
      rcases hfollowing world with ⟨more, hmore, hcalls'⟩
      refine ⟨done ++ more, hmore.after hwent, ?_⟩
      have hnames : names modules = names s.modules := names_eq_of_cast_eq hwent.cast_eq
      have hcalls₁ : calls = done.map (callOf (names s.modules)) := hcalls
      rw [hnames] at hcalls'
      rw [List.map_append, ← hcalls₁, ← hcalls']
      rfl

theorem length_prepareAll (ns : List Nat) (modules : List (LoadedModule σ V)) (world : σ) :
    (prepareAll ns modules world).1.length = modules.length := by
  induction ns generalizing modules world with
  | nil => rfl
  | cons n rest ih =>
      rw [prepareAll]
      split
      · exact ih modules world
      · dsimp only
        split
        · exact List.length_set
        · exact (ih _ _).trans List.length_set

theorem yields_prepareAll (order : List Nat) {ns : List Nat}
    (hns : forall n, n ∈ ns -> n < modules.length) (world : σ) :
    Yields order { modules, world } (ns.map (Hook.mk .prepare)) (prepareAll ns modules world).1
      (prepareAll ns modules world).2 := by
  induction ns generalizing modules world with
  | nil => exact Yields.nil order modules world
  | cons n rest ih =>
      rcases exists_of_lt (hns n List.mem_cons_self) with ⟨m, hm⟩
      rw [prepareAll, hm]
      dsimp only
      rcases hrun : (m.provider.prepare m.registry world).run m.registry with
        ⟨registry, world', outcome⟩
      cases outcome with
      | error failure =>
          have hperform : perform order { modules, world } ⟨.prepare, n⟩ =
              ({ modules := modules.set n { m with registry }
                 world := world' }, .error failure) := by
            simp only [perform, hm, hrun]
          exact Yields.fails hm rfl hperform rest
      | ok _ =>
          have hperform : perform order { modules, world } ⟨.prepare, n⟩ =
              ({ modules := modules.set n { m with registry := registry.freeze }
                 world := world' }, .ok ()) := by
            simp only [perform, hm, hrun]
          apply Yields.cons hm rfl hperform
          apply ih
          intro k hk
          rw [List.length_set]
          exact hns k (List.mem_cons_of_mem n hk)

theorem yields_startAll {order ns : List Nat} (hns : forall n, n ∈ ns -> n < modules.length)
    (world : σ) :
    Yields order { modules, world } (ns.map (Hook.mk .start)) modules
      (startAll (prepared modules order).view (ns.filterMap fun n => modules[n]?) world) := by
  induction ns generalizing world with
  | nil => exact Yields.nil order modules world
  | cons n rest ih =>
      rcases exists_of_lt (hns n List.mem_cons_self) with ⟨m, hm⟩
      rw [List.filterMap_cons_some hm, startAll]
      cases hrequire : m.registry.requireAll m.provider.promises with
      | error e =>
          have hbarrier : barrier? { modules, world } ⟨.start, n⟩ = some e := by
            simp only [barrier?, hm, hrequire]
          exact ⟨[], CarriedOut.barred (List.nil_append _).symm (Went.nil _) hbarrier, rfl⟩
      | ok _ =>
          have hfree : barrier? { modules, world } ⟨.start, n⟩ = none := by
            simp only [barrier?, hm, hrequire]
          dsimp only
          rcases hstart : m.provider.start (prepared modules order).view world with
            ⟨world', outcome⟩
          have hperform : perform order { modules, world } ⟨.start, n⟩ =
              ({ modules, world := world' }, outcome) := by
            simp only [perform, hm, view, hstart]
          cases outcome with
          | error failure => exact Yields.fails hm hfree hperform rest
          | ok _ =>
              have hrest := ih (fun k hk => hns k (List.mem_cons_of_mem n hk)) world'
              exact Yields.cons hm hfree hperform hrest

theorem yields_notifyAll {order ns : List Nat} (hns : forall n, n ∈ ns -> n < modules.length)
    (world : σ) :
    Yields order { modules, world } (ns.map (Hook.mk .afterAllStarted)) modules
      (notifyAll (prepared modules order).view (ns.filterMap fun n => modules[n]?) world) := by
  induction ns generalizing world with
  | nil => exact Yields.nil order modules world
  | cons n rest ih =>
      rcases exists_of_lt (hns n List.mem_cons_self) with ⟨m, hm⟩
      rw [List.filterMap_cons_some hm, notifyAll]
      rcases hnotify : m.provider.afterAllStarted (prepared modules order).view world with
        ⟨world', outcome⟩
      have hperform : perform order { modules, world } ⟨.afterAllStarted, n⟩ =
          ({ modules, world := world' }, outcome) := by
        simp only [perform, hm, view, hnotify]
      cases outcome with
      | error failure => exact Yields.fails hm rfl hperform rest
      | ok _ =>
          have hrest := ih (fun k hk => hns k (List.mem_cons_of_mem n hk)) world'
          exact Yields.cons hm rfl hperform hrest

end Situation

/-!
## The whole startup
-/

namespace Manager

open Situation

variable {σ V : Type} {m : Manager σ V} {order : List Nat}

def launch (m : Manager σ V) (world : σ) : Lived σ :=
  (startAll m.view m.started world).andThen (notifyAll m.view m.started)

theorem bootstrap_snd (hpreparing : m.preparing = true)
    (horder : StartupOrder.compute (m.modules.map LoadedModule.needs) = .ok order) (world : σ) :
    (m.bootstrap world).2 = (prepareAll order m.modules world).2.andThen
      (prepared (prepareAll order m.modules world).1 order).launch := by
  have hpreparing' : ¬(!m.preparing) = true := by simp [hpreparing]
  unfold bootstrap
  rw [if_neg hpreparing', horder]
  dsimp only
  rcases prepareAll order m.modules world with ⟨modules, world', calls, result⟩
  cases result with
  | error e => rfl
  | ok _ => rfl

theorem yields_launch {modules : List (LoadedModule σ V)}
    (hns : forall n, n ∈ order -> n < modules.length) (world : σ) :
    Yields order { modules, world }
      (order.map (Hook.mk .start) ++ order.map (Hook.mk .afterAllStarted)) modules
      ((prepared modules order).launch world) :=
  (yields_startAll hns world).andThen (yields_notifyAll hns)

/-- A startup carries out its schedule. -/
theorem yields_bootstrap (hpreparing : m.preparing = true)
    (horder : StartupOrder.compute (m.modules.map LoadedModule.needs) = .ok order)
    (hns : forall n, n ∈ order -> n < m.modules.length) (world : σ) :
    Yields order { modules := m.modules, world } (schedule order)
      (prepareAll order m.modules world).1 (m.bootstrap world).2 := by
  rw [bootstrap_snd hpreparing horder, schedule, List.append_assoc]
  apply (yields_prepareAll order hns world).andThen
  intro world'
  apply yields_launch
  intro n hn
  rw [length_prepareAll]
  exact hns n hn

/-!
## What the schedule looks like

No hook comes twice in a schedule, so where it is cut at a hook, both parts are determined.
-/

theorem nodup_schedule (h : order.Nodup) : (schedule order).Nodup := by
  have hphase : forall phase, (order.map (Hook.mk phase)).Nodup := by
    intro phase
    exact h.map fun _ _ heq => (Hook.mk.inj heq).right
  have hapart : forall {phase phase' : Phase}, phase ≠ phase' ->
      (order.map (Hook.mk phase)).Disjoint (order.map (Hook.mk phase')) := by
    intro phase phase' hne hook hleft hright
    rcases List.mem_map.mp hleft with ⟨_, _, rfl⟩
    rcases List.mem_map.mp hright with ⟨_, _, heq⟩
    exact hne (Hook.mk.inj heq).left.symm
  unfold schedule
  refine List.Nodup.append (List.Nodup.append (hphase _) (hphase _) (hapart (by decide)))
    (hphase _) ?_
  rw [List.disjoint_append_left]
  exact ⟨hapart (by decide), hapart (by decide)⟩

theorem index_lt_of_mem_schedule {k : Nat} (hns : forall n, n ∈ order -> n < k) {h : Hook}
    (hmem : h ∈ schedule order) : h.index < k := by
  unfold schedule at hmem
  rcases List.mem_append.mp hmem with hmem | hmem
  · rcases List.mem_append.mp hmem with hmem | hmem
    · rcases List.mem_map.mp hmem with ⟨n, hn, rfl⟩
      exact hns n hn
    · rcases List.mem_map.mp hmem with ⟨n, hn, rfl⟩
      exact hns n hn
  · rcases List.mem_map.mp hmem with ⟨n, hn, rfl⟩
    exact hns n hn

theorem cut_after {α : Type} {first rest before after : List α} {x : α}
    (h : first ++ rest = before ++ x :: after) (hx : x ∉ first) :
    exists middle, before = first ++ middle ∧ rest = middle ++ x :: after := by
  rcases List.append_eq_append_iff.mp h with ⟨middle, hbefore, hrest⟩ | ⟨middle, hfirst, hafter⟩
  · exact ⟨middle, hbefore, hrest⟩
  · cases middle with
    | nil => exact ⟨[], by simpa using hfirst.symm, hafter.symm⟩
    | cons y more =>
        rw [List.head_eq_of_cons_eq hafter] at hx
        exact absurd (hfirst ▸ List.mem_append_right _ List.mem_cons_self) hx

theorem cut_before {α : Type} {first rest before after : List α} {x : α}
    (h : first ++ rest = before ++ x :: after) (hx : x ∉ rest) :
    exists more, first = before ++ x :: more := by
  rcases List.append_eq_append_iff.mp h with ⟨middle, _, hrest⟩ | ⟨middle, hfirst, hafter⟩
  · exact absurd (hrest ▸ List.mem_append_right _ List.mem_cons_self) hx
  · cases middle with
    | nil =>
        have hrest : x :: after = rest := hafter
        exact absurd (hrest ▸ List.mem_cons_self) hx
    | cons y more =>
        rw [← List.head_eq_of_cons_eq hafter] at hfirst
        exact ⟨more, hfirst⟩

theorem notMem_map_hook {phase phase' : Phase} (h : phase ≠ phase') (order : List Nat) (n : Nat) :
    Hook.mk phase n ∉ order.map (Hook.mk phase') := by
  intro hmem
  rcases List.mem_map.mp hmem with ⟨_, _, heq⟩
  exact h (Hook.mk.inj heq).left.symm

/-- Before the start of a module come all prepares and the starts of the modules before it. -/
theorem exists_of_schedule_eq {before after : List Hook} {n : Nat}
    (h : schedule order = before ++ ⟨.start, n⟩ :: after) :
    exists earlier later, order = earlier ++ n :: later ∧
      before = order.map (Hook.mk .prepare) ++ earlier.map (Hook.mk .start) := by
  rcases cut_before h (notMem_map_hook (by decide) order n) with ⟨more, hmore⟩
  rcases cut_after hmore (notMem_map_hook (by decide) order n) with ⟨middle, rfl, hstarts⟩
  rcases List.map_eq_append_iff.mp hstarts with ⟨earlier, rest, horder, rfl, hrest⟩
  rcases List.map_eq_cons_iff.mp hrest with ⟨k, later, rfl, hk, _⟩
  cases hk
  exact ⟨earlier, later, horder, rfl⟩

theorem nodup_map_callOf {names : List String} (hnames : names.Nodup) {done : List Hook}
    (hdone : done.Nodup) (hlt : forall h, h ∈ done -> h.index < names.length) :
    (done.map (callOf names)).Nodup := by
  apply List.Nodup.map_on ?_ hdone
  intro h hh k hk heq
  rcases h with ⟨phase, i⟩
  rcases k with ⟨phase', j⟩
  rcases HookCall.mk.inj heq with ⟨hphase, hname⟩
  have hi := hlt _ hh
  have hj := hlt _ hk
  simp only [List.getD_eq_getElem?_getD, List.getElem?_eq_getElem hi,
    List.getElem?_eq_getElem hj, Option.getD_some] at hname
  have hindex : i = j := (List.Nodup.getElem_inj_iff hnames).mp hname
  have hphase' : phase = phase' := hphase
  rw [hphase', hindex]

/-- How a startup ends that has called these hooks. It has gone through its schedule, or the last
hook is the first to fail, or the next one is the first start of a module that has not registered
all that it promised. -/
def EndsAfter (m : Manager σ V) (order : List Nat) (world : σ) (done : List Hook) :
    Except ModuleError Unit -> Prop
  | .ok () => done = schedule order ∧ exists s, Went order { modules := m.modules, world } done s
  | .error e =>
      (exists before h s loaded failure, done = before ++ [h] ∧
        Went order { modules := m.modules, world } before s ∧
        (s.perform order h).2 = .error failure ∧ m.modules[h.index]? = some loaded ∧
        e = .moduleStart loaded.name loaded.provider.name h.phase failure) ∨
      (exists first n last s loaded earlier missing later, order = first ++ n :: last ∧
        done = order.map (Hook.mk .prepare) ++ first.map (Hook.mk .start) ∧
        Went order { modules := m.modules, world } done s ∧ s.modules[n]? = some loaded ∧
        loaded.provider.promises = earlier ++ missing :: later ∧
        (forall c, c ∈ earlier -> loaded.registry.contains c = true) ∧
        loaded.registry.contains missing = false ∧
        e = .serviceNotProvided loaded.name missing)

theorem endsAfter_of_carriedOut {world : σ} {done : List Hook} {last : Situation σ V}
    {result : Except ModuleError Unit}
    (h : CarriedOut order { modules := m.modules, world } (schedule order) done last result) :
    m.EndsAfter order world done result := by
  cases h with
  | whole hwent => exact ⟨rfl, last, hwent⟩
  | failed hsplit hbefore _ hm hperform =>
      rcases exists_of_cast_eq hbefore.cast_eq hm with ⟨loaded, hloaded, hname, hprovider⟩
      refine Or.inl ⟨_, _, _, loaded, _, rfl, hbefore, by rw [hperform], hloaded, ?_⟩
      rw [hname, hprovider]
      rfl
  | @barred _ _ hook s _ hsplit hbefore hbarrier =>
      rcases hook with ⟨phase, n⟩
      rcases barrier?_eq_some hbarrier with
        ⟨rfl, loaded, earlier, missing, later, hloaded, hpromises, hall, hmissing, he⟩
      rcases exists_of_schedule_eq hsplit with ⟨first, rest, hfirst, hdone⟩
      exact Or.inr ⟨first, n, rest, last, loaded, earlier, missing, later, hfirst, hdone, hbefore,
        hloaded, hpromises, hall, hmissing, he⟩

/-- The hooks of a startup are called as scheduled, each once, and no module starts before all have
prepared. The startup ends in one of the three ways. -/
theorem lifecycle_trace (hpreparing : m.preparing = true) (hdistinct : m.moduleNames.Nodup)
    (horder : StartupOrder.compute (m.modules.map LoadedModule.needs) = .ok order) (world : σ) :
    exists done, done <+: schedule order ∧
      (m.bootstrap world).2.calls = done.map (callOf m.moduleNames) ∧
      (m.bootstrap world).2.calls.Nodup ∧
      (forall n, Hook.mk .start n ∈ done ->
        exists s, Went order { modules := m.modules, world } (order.map (Hook.mk .prepare)) s) ∧
      m.EndsAfter order world done (m.bootstrap world).2.result := by
  have hnames : ((m.modules.map LoadedModule.needs).map ModuleNeeds.name).Nodup := by
    simpa [LoadedModule.needs, Function.comp_def, moduleNames] using hdistinct
  have hrange := (StartupOrder.order_of_compute_ok hnames horder).left
  have hns : forall n, n ∈ order -> n < m.modules.length := by
    intro n hn
    simpa using hrange.mem_iff.mp hn
  have hnodup : order.Nodup := hrange.nodup_iff.mpr List.nodup_range
  rcases yields_bootstrap hpreparing horder hns world with ⟨done, hdone, hcalls⟩
  have hinitial := hdone.initial
  refine ⟨done, hinitial, hcalls, ?_, ?_, endsAfter_of_carriedOut hdone⟩
  · rw [hcalls]
    apply nodup_map_callOf hdistinct ((nodup_schedule hnodup).sublist hinitial.sublist)
    intro h hh
    simpa [moduleNames] using index_lt_of_mem_schedule hns (hinitial.subset hh)
  · intro n hn
    rw [schedule, List.append_assoc] at hdone
    exact hdone.went_first hn (notMem_map_hook (by decide) order n)

def plain (name : String) (requires : List String) (start : Except Failure Unit) :
    LoadedModule Unit Unit :=
  { provider :=
      { name := "default", moduleName := name, requires, promises := []
        prepare := fun _ _ => .ended () (.ok ())
        start := fun _ _ => ((), start)
        afterAllStarted := fun _ _ => ((), .ok ())
        stop := fun _ => ((), .ok ()) }
    registry := .create name }

def failingStorage : Manager Unit Unit :=
  { modules := [plain "storage" ["core"] (.error (.ofText "disk full")), plain "core" [] (.ok ())]
    sequence := []
    preparing := true }

/-- The module that is loaded first starts last, and its start fails. -/
theorem lifecycle_trace_of_failingStorage :
    failingStorage.preparing = true ∧ failingStorage.moduleNames.Nodup ∧
      StartupOrder.compute (failingStorage.modules.map LoadedModule.needs) = .ok [1, 0] ∧
      exists done, done <+: schedule [1, 0] ∧
        (failingStorage.bootstrap ()).2.calls = done.map (callOf failingStorage.moduleNames) ∧
        (failingStorage.bootstrap ()).2.calls.Nodup ∧
        (forall n, Hook.mk .start n ∈ done -> exists s,
          Went [1, 0] { modules := failingStorage.modules, world := () }
            ([1, 0].map (Hook.mk .prepare)) s) ∧
        failingStorage.EndsAfter [1, 0] () done (failingStorage.bootstrap ()).2.result := by
  have hdistinct : failingStorage.moduleNames.Nodup := by decide
  have horder : StartupOrder.compute (failingStorage.modules.map LoadedModule.needs) =
      .ok [1, 0] := by decide +kernel
  exact ⟨rfl, hdistinct, horder, lifecycle_trace rfl hdistinct horder ()⟩

end Manager
end ClusterNode
