import ClusterNode.Proofs.Startup.Registration

/-!
# The life of a manager

Providers are loaded and the startup is tried, in any order and as often as one likes. A startup is
refused, finds no order, halts at a prepare, or goes on to the starts. Only the last kind ends the
time in which modules can be loaded, and it happens once. Whatever is asked of a manager, what its
registries hold stays, and it comes from the prepares of their own modules.
-/

namespace ClusterNode

inductive Request (σ V : Type)
  | addProvider (p : Provider σ V)
  | bootstrap (world : σ)
  | find (moduleName : String)
  | shutdown (world : σ)

namespace Manager

open Situation

variable {σ V : Type} {m m' : Manager σ V} {p : Provider σ V} {world : σ} {order : List Nat}
  {modules : List (LoadedModule σ V)} {history earlier later : List (Request σ V)}
  {request : Request σ V} {c : Capability} {v : V}

def serve (m : Manager σ V) : Request σ V -> Manager σ V × List HookCall
  | .addProvider p =>
      match m.addProvider p with
      | .ok m' => (m', [])
      | .error _ => (m, [])
  | .bootstrap world => ((m.bootstrap world).1, (m.bootstrap world).2.calls)
  | .find _ => (m, [])
  | .shutdown world => (m, (m.shutdown world).2.1)

def after (m : Manager σ V) (history : List (Request σ V)) : Manager σ V :=
  history.foldl (fun m request => (m.serve request).1) m

def calls (m : Manager σ V) : List (Request σ V) -> List HookCall
  | [] => []
  | request :: rest => (m.serve request).2 ++ (m.serve request).1.calls rest

@[simp] theorem after_append (m : Manager σ V) (a b : List (Request σ V)) :
    m.after (a ++ b) = (m.after a).after b :=
  List.foldl_append

theorem after_concat (m : Manager σ V) (history : List (Request σ V)) (request : Request σ V) :
    m.after (history ++ [request]) = ((m.after history).serve request).1 :=
  after_append m history [request]

theorem calls_concat (m : Manager σ V) (history : List (Request σ V)) (request : Request σ V) :
    m.calls (history ++ [request]) = m.calls history ++ ((m.after history).serve request).2 := by
  induction history generalizing m with
  | nil => simp [calls, after]
  | cons first rest ih =>
      rw [List.cons_append, calls, calls, ih, List.append_assoc]
      rfl

/-!
## Loading

A provider is loaded, or all stays as it is.
-/

theorem has_eq_true_iff {name : String} : m.has name = true <-> name ∈ m.moduleNames := by
  simp only [has, moduleNames, List.any_eq_true, List.mem_map, beq_iff_eq]

def load (m : Manager σ V) (p : Provider σ V) : Manager σ V :=
  { m with modules := m.modules ++ [{ provider := p, registry := .create p.moduleName }] }

theorem addProvider_eq_ok_iff : m.addProvider p = .ok m' <->
    m.preparing = true ∧ p.moduleName ∉ m.moduleNames ∧ m' = m.load p := by
  unfold addProvider
  rw [← has_eq_true_iff]
  by_cases hpreparing : m.preparing = true
  · by_cases hhas : m.has p.moduleName = true
    · simp [hpreparing, hhas]
    · simp [hpreparing, hhas, load, eq_comm]
  · simp [hpreparing]

theorem serve_addProvider (m : Manager σ V) (p : Provider σ V) :
    (m.preparing = true ∧ p.moduleName ∉ m.moduleNames ∧
        m.serve (.addProvider p) = (m.load p, [])) ∨
      ((exists e, m.addProvider p = .error e) ∧ m.serve (.addProvider p) = (m, [])) := by
  cases hadd : m.addProvider p with
  | error e => exact Or.inr ⟨⟨e, rfl⟩, by rw [serve, hadd]⟩
  | ok m' =>
      rcases addProvider_eq_ok_iff.mp hadd with ⟨hpreparing, hnew, rfl⟩
      exact Or.inl ⟨hpreparing, hnew, by rw [serve, hadd]⟩

theorem moduleNames_load (m : Manager σ V) (p : Provider σ V) :
    (m.load p).moduleNames = m.moduleNames ++ [p.moduleName] :=
  List.map_append

theorem cast_load (m : Manager σ V) (p : Provider σ V) :
    Situation.cast (m.load p).modules = Situation.cast m.modules ++ [(p.moduleName, p)] :=
  List.map_append

theorem grows_load (m : Manager σ V) (p : Provider σ V) : Grows m.modules (m.load p).modules := by
  intro n k hk
  refine ⟨k, ?_, rfl, Registry.Grows.refl k.registry⟩
  exact (List.getElem?_append_left (List.getElem?_eq_some_iff.mp hk).1).trans hk

/-!
## Startups

After its prepares a startup leaves the modules as they are, and the rest of it takes nothing away
of what is there.
-/

/-- How a startup can turn out: it is refused, it finds no order, a prepare fails, or all modules
have prepared and the rest of the schedule is carried out. -/
inductive Booted (m : Manager σ V) (world : σ) : Manager σ V -> Lived σ -> Prop where
  | refused {e : ModuleError} :
      m.preparing = false -> Booted m world m { world, calls := [], result := .error e }
  | unsequenced {e : ModuleError} :
      m.preparing = true -> StartupOrder.compute (m.modules.map LoadedModule.needs) = .error e ->
        Booted m world m { world, calls := [], result := .error e }
  | halted {order : List Nat} {done : List Hook} {last : Situation σ V} {e : ModuleError} :
      m.preparing = true -> StartupOrder.compute (m.modules.map LoadedModule.needs) = .ok order ->
        CarriedOut order { modules := m.modules, world } (order.map (Hook.mk .prepare)) done last
            (.error e) ->
          Booted m world { m with modules := last.modules }
            { world := last.world, calls := done.map (callOf m.moduleNames), result := .error e }
  | launched {order : List Nat} {done : List Hook} {ready last : Situation σ V}
      {result : Except ModuleError Unit} :
      m.preparing = true -> StartupOrder.compute (m.modules.map LoadedModule.needs) = .ok order ->
        Went order { modules := m.modules, world } (order.map (Hook.mk .prepare)) ready ->
          CarriedOut order ready
              (order.map (Hook.mk .start) ++ order.map (Hook.mk .afterAllStarted)) done last
              result ->
            Booted m world (prepared ready.modules order)
              { world := last.world
                calls := (order.map (Hook.mk .prepare) ++ done).map (callOf m.moduleNames)
                result }

theorem perm_of_compute_ok (hnames : m.moduleNames.Nodup)
    (horder : StartupOrder.compute (m.modules.map LoadedModule.needs) = .ok order) :
    order.Perm (List.range m.modules.length) := by
  have hdistinct : ((m.modules.map LoadedModule.needs).map ModuleNeeds.name).Nodup := by
    simpa [LoadedModule.needs, Function.comp_def, moduleNames] using hnames
  simpa using (StartupOrder.order_of_compute_ok hdistinct horder).left

theorem booted_bootstrap (hnames : m.moduleNames.Nodup) (world : σ) :
    Booted m world (m.bootstrap world).1 (m.bootstrap world).2 := by
  unfold bootstrap
  by_cases hpreparing : m.preparing = true
  · have hgo : ¬(!m.preparing) = true := by simp [hpreparing]
    rw [if_neg hgo]
    cases horder : StartupOrder.compute (m.modules.map LoadedModule.needs) with
    | error e => exact Booted.unsequenced hpreparing horder
    | ok order =>
        have hns : forall n, n ∈ order -> n < m.modules.length := by
          intro n hn
          simpa using (perm_of_compute_ok hnames horder).mem_iff.mp hn
        rcases yields_prepareAll order hns world with ⟨done, hdone, hcalls⟩
        have hlength := length_prepareAll order m.modules world
        rcases hprepare : prepareAll order m.modules world with ⟨modules, world', calls, result⟩
        rw [hprepare] at hdone hcalls hlength
        simp only [hprepare]
        have hcalls' : calls = done.map (callOf m.moduleNames) := hcalls
        subst hcalls'
        cases result with
        | error e => exact Booted.halted hpreparing horder hdone
        | ok _ =>
            rcases hdone.went with ⟨rfl, hwent⟩
            have hns' : forall n, n ∈ order -> n < modules.length := by
              intro n hn
              exact lt_of_lt_of_eq (hns n hn) hlength.symm
            rcases yields_launch hns' world' with ⟨more, hmore, hcalls'⟩
            have hnames' : names modules = m.moduleNames := names_eq_of_cast_eq hwent.cast_eq
            have hlaunched := Booted.launched hpreparing horder hwent hmore
            rw [List.map_append, ← hnames', ← hcalls', hnames'] at hlaunched
            exact hlaunched
  · have hrefused : (!m.preparing) = true := by simp [hpreparing]
    rw [if_pos hrefused]
    exact Booted.refused (by simpa using hpreparing)

theorem Booted.cast_eq {lived : Lived σ} (h : Booted m world m' lived) :
    Situation.cast m'.modules = Situation.cast m.modules := by
  cases h with
  | refused _ => rfl
  | unsequenced _ _ => rfl
  | halted _ _ hdone => exact hdone.cast_eq
  | launched _ _ hready _ => exact hready.cast_eq

theorem Booted.grows {lived : Lived σ} (h : Booted m world m' lived) :
    Grows m.modules m'.modules := by
  cases h with
  | refused _ => exact Grows.refl m.modules
  | unsequenced _ _ => exact Grows.refl m.modules
  | halted _ _ hdone => exact hdone.grows
  | launched _ _ hready _ => exact hready.grows

theorem Booted.distinct {lived : Lived σ} (h : Booted m world m' lived)
    (hdistinct : Distinct m.modules) : Distinct m'.modules := by
  cases h with
  | refused _ => exact hdistinct
  | unsequenced _ _ => exact hdistinct
  | halted _ _ hdone => exact hdone.distinct hdistinct
  | launched _ _ hready _ => exact hready.distinct hdistinct

theorem phase_ne_prepare_of_mem {hook : Hook}
    (h : hook ∈ order.map (Hook.mk .start) ++ order.map (Hook.mk .afterAllStarted)) :
    hook.phase ≠ .prepare := by
  rcases List.mem_append.mp h with hstart | hnotified
  · rcases List.mem_map.mp hstart with ⟨n, _, rfl⟩
    exact Phase.noConfusion
  · rcases List.mem_map.mp hnotified with ⟨n, _, rfl⟩
    exact Phase.noConfusion

theorem Booted.grows_from {lived : Lived σ} (h : Booted m world m' lived)
    (hpreparing : m.preparing = true)
    (horder : StartupOrder.compute (m.modules.map LoadedModule.needs) = .ok order)
    {before more : List Hook} (hsplit : schedule order = before ++ more) {now : Situation σ V}
    (hbefore : Went order { modules := m.modules, world } before now) :
    Grows now.modules m'.modules := by
  have hparts : schedule order = order.map (Hook.mk .prepare) ++
      (order.map (Hook.mk .start) ++ order.map (Hook.mk .afterAllStarted)) :=
    List.append_assoc _ _ _
  rw [hparts] at hsplit
  cases h with
  | refused hprepared => cases hpreparing.symm.trans hprepared
  | unsequenced _ hstuck => cases hstuck.symm.trans horder
  | halted _ horder' hdone =>
      cases horder.symm.trans horder'
      have hwhole := hdone.stopped
        (order.map (Hook.mk .start) ++ order.map (Hook.mk .afterAllStarted))
      rw [hsplit] at hwhole
      rcases hwhole.resume hbefore with ⟨rest, _, hrest⟩
      exact hrest.grows
  | @launched _ done ready last _ _ horder' hready hdone =>
      cases horder.symm.trans horder'
      have hwhole := hdone.after hready
      rw [hsplit] at hwhole
      rcases hwhole.resume hbefore with ⟨rest, _, hrest⟩
      have hsame := hdone.modules_eq fun hook hhook => phase_ne_prepare_of_mem hhook
      show Grows now.modules ready.modules
      rw [← hsame]
      exact hrest.grows

/-!
## What requests keep

A startup calls each of its hooks once. Nothing that is loaded or registered is ever taken away.
-/

/-- What holds of a manager at any time, with the hooks that have been called. -/
structure Sound (m : Manager σ V) (called : List HookCall) : Prop where
  /-- Modules have names of their own. -/
  names : m.moduleNames.Nodup
  /-- Registries have one implementation for each capability. -/
  registries : Distinct m.modules
  /-- As long as modules can be loaded, none has started. -/
  unstarted : m.preparing = true -> forall name, HookCall.mk .start name ∉ called
  /-- Afterwards there is an order of all modules. -/
  sequence : m.preparing = false -> m.sequence.Perm (List.range m.modules.length)
  /-- Afterwards nothing can be registered. -/
  frozen : m.preparing = false -> forall k, k ∈ m.modules -> k.registry.frozen = true
  /-- No module starts twice. -/
  once : forall name, called.count (HookCall.mk .start name) ≤ 1

variable {called : List HookCall}

theorem sound_create : (create : Manager σ V).Sound [] := by
  constructor
  · exact List.nodup_nil
  · intro k hk
    cases hk
  · intro _ name hmem
    cases hmem
  · intro h
    cases h
  · intro h
    cases h
  · intro name
    exact Nat.zero_le 1

theorem Sound.load (h : m.Sound called) (hpreparing : m.preparing = true)
    (hnew : p.moduleName ∉ m.moduleNames) : (m.load p).Sound called := by
  have hstill : (m.load p).preparing = true := hpreparing
  constructor
  · rw [moduleNames_load, ← List.concat_eq_append, List.nodup_concat]
    exact ⟨hnew, h.names⟩
  · intro k hk
    rcases List.mem_append.mp hk with hold | hadded
    · exact h.registries k hold
    · rw [List.mem_singleton.mp hadded]
      exact Registry.distinct_create p.moduleName
  · intro _
    exact h.unstarted hpreparing
  · intro hprepared
    cases hstill.symm.trans hprepared
  · intro hprepared
    cases hstill.symm.trans hprepared
  · exact h.once

theorem Sound.calling (h : m.Sound called) {more : List HookCall}
    (hmore : forall name, HookCall.mk .start name ∉ more) : m.Sound (called ++ more) := by
  refine ⟨h.names, h.registries, ?_, h.sequence, h.frozen, ?_⟩
  · intro hpreparing name hmem
    exact (List.mem_append.mp hmem).elim (h.unstarted hpreparing name) (hmore name)
  · intro name
    rw [List.count_append, List.count_eq_zero_of_not_mem (hmore name)]
    exact h.once name

theorem notMem_start_of_prepares {done : List Hook} (h : done <+: order.map (Hook.mk .prepare))
    (names : List String) (name : String) :
    HookCall.mk .start name ∉ done.map (callOf names) := by
  intro hmem
  rcases List.mem_map.mp hmem with ⟨hook, hhook, hcall⟩
  rcases List.mem_map.mp (h.subset hhook) with ⟨n, _, rfl⟩
  cases congrArg HookCall.phase hcall

theorem notMem_start_shutdown (m : Manager σ V) (world : σ) (name : String) :
    HookCall.mk .start name ∉ (m.shutdown world).2.1 := by
  unfold shutdown
  rw [calls_stopAll]
  intro hmem
  rcases List.mem_map.mp hmem with ⟨k, _, hcall⟩
  cases congrArg HookCall.phase hcall

theorem nodup_calls_of_initial (hnames : m.moduleNames.Nodup)
    (horder : StartupOrder.compute (m.modules.map LoadedModule.needs) = .ok order)
    {done : List Hook} (hdone : done <+: schedule order) :
    (done.map (callOf m.moduleNames)).Nodup := by
  have hrange := perm_of_compute_ok hnames horder
  have hns : forall n, n ∈ order -> n < m.modules.length := by
    intro n hn
    simpa using hrange.mem_iff.mp hn
  have hnodup : order.Nodup := hrange.nodup_iff.mpr List.nodup_range
  apply nodup_map_callOf hnames ((nodup_schedule hnodup).sublist hdone.sublist)
  intro h hh
  simpa [moduleNames] using index_lt_of_mem_schedule hns (hdone.subset hh)

theorem Sound.booted {lived : Lived σ} (h : m.Sound called) (hbooted : Booted m world m' lived) :
    m'.Sound (called ++ lived.calls) := by
  have hnames : m'.moduleNames = m.moduleNames := names_eq_of_cast_eq hbooted.cast_eq
  have hdistinct := hbooted.distinct h.registries
  cases hbooted with
  | refused _ => exact h.calling fun _ hmem => by cases hmem
  | unsequenced _ _ => exact h.calling fun _ hmem => by cases hmem
  | halted hpreparing horder hdone =>
      have hmore := notMem_start_of_prepares hdone.initial m.moduleNames
      have hcalled := h.calling hmore
      refine ⟨hnames ▸ h.names, hdistinct, fun _ => hcalled.unstarted hpreparing, ?_, ?_,
        hcalled.once⟩
      · intro hprepared
        cases hpreparing.symm.trans hprepared
      · intro hprepared
        cases hpreparing.symm.trans hprepared
  | @launched order done ready last result hpreparing horder hready hdone =>
      have hrange := perm_of_compute_ok h.names horder
      have hlength : ready.modules.length = m.modules.length := by
        simpa [Situation.cast] using congrArg List.length hready.cast_eq
      refine ⟨hnames ▸ h.names, hdistinct, fun hstill => absurd hstill Bool.false_ne_true, ?_, ?_,
        ?_⟩
      · intro _
        show order.Perm (List.range ready.modules.length)
        rw [hlength]
        exact hrange
      · intro _ k hk
        rcases List.mem_iff_getElem?.mp hk with ⟨n, hn⟩
        apply hready.frozen (hrange.mem_iff.mpr ?_) hn
        rw [List.mem_range, ← hlength]
        exact (List.getElem?_eq_some_iff.mp hn).1
      · intro name
        have hinitial := hdone.initial
        rw [List.count_append, List.count_eq_zero_of_not_mem (h.unstarted hpreparing name),
          Nat.zero_add]
        apply List.nodup_iff_count_le_one.mp
        apply nodup_calls_of_initial h.names horder
        rw [schedule, List.append_assoc]
        exact (List.prefix_append_right_inj _).mpr hinitial

theorem Sound.serve (h : m.Sound called) (request : Request σ V) :
    (m.serve request).1.Sound (called ++ (m.serve request).2) := by
  cases request with
  | addProvider p =>
      rcases serve_addProvider m p with ⟨hpreparing, hnew, hserve⟩ | ⟨_, hserve⟩
      · rw [hserve, List.append_nil]
        exact h.load hpreparing hnew
      · rw [hserve, List.append_nil]
        exact h
  | bootstrap world => exact h.booted (booted_bootstrap h.names world)
  | find moduleName => exact h.calling fun _ hmem => by cases hmem
  | shutdown world => exact h.calling (notMem_start_shutdown m world)

theorem sound_after (history : List (Request σ V)) :
    (create.after history).Sound (create.calls history) := by
  induction history using List.reverseRecOn with
  | nil => exact sound_create
  | append_singleton history request ih =>
      rw [after_concat, calls_concat]
      exact ih.serve request

theorem grows_serve (hnames : m.moduleNames.Nodup) (request : Request σ V) :
    Grows m.modules (m.serve request).1.modules := by
  cases request with
  | addProvider p =>
      rcases serve_addProvider m p with ⟨_, _, hserve⟩ | ⟨_, hserve⟩
      · rw [hserve]
        exact grows_load m p
      · rw [hserve]
        exact Grows.refl m.modules
  | bootstrap world => exact (booted_bootstrap hnames world).grows
  | find moduleName => exact Grows.refl m.modules
  | shutdown world => exact Grows.refl m.modules

theorem grows_after (earlier later : List (Request σ V)) :
    Grows (create.after earlier).modules (create.after (earlier ++ later)).modules := by
  induction later using List.reverseRecOn with
  | nil =>
      rw [List.append_nil]
      exact Grows.refl _
  | append_singleton later request ih =>
      rw [← List.append_assoc, after_concat]
      exact ih.trans (grows_serve (sound_after _).names request)

/-!
## Loads of a history
-/

theorem exists_split_concat {α : Type} {history : List α} {request x : α} {P : List α -> Prop} :
    (exists earlier later, history ++ [request] = earlier ++ x :: later ∧ P earlier) <->
      (exists earlier later, history = earlier ++ x :: later ∧ P earlier) ∨
        request = x ∧ P history := by
  constructor
  · rintro ⟨earlier, later, hsplit, hP⟩
    rcases List.eq_nil_or_concat later with rfl | ⟨later, last, rfl⟩
    · rcases List.append_inj' hsplit rfl with ⟨rfl, hlast⟩
      exact Or.inr ⟨List.head_eq_of_cons_eq hlast, hP⟩
    · rw [List.concat_eq_append, ← List.cons_append, ← List.append_assoc] at hsplit
      rcases List.append_inj' hsplit rfl with ⟨rfl, _⟩
      exact Or.inl ⟨earlier, later, rfl, hP⟩
  · rintro (⟨earlier, later, rfl, hP⟩ | ⟨rfl, hP⟩)
    · exact ⟨earlier, later ++ [request], by rw [List.append_assoc, List.cons_append], hP⟩
    · exact ⟨history, [], rfl, hP⟩

/-- At some point of the history the provider has been asked for and accepted. -/
def Accepted (history : List (Request σ V)) (p : Provider σ V) : Prop :=
  exists earlier later, history = earlier ++ .addProvider p :: later ∧
    exists m', (create.after earlier).addProvider p = .ok m'

theorem accepted_concat : Accepted (history ++ [request]) p <->
    Accepted history p ∨
      request = .addProvider p ∧ exists m', (create.after history).addProvider p = .ok m' :=
  exists_split_concat

/-- The modules are those of the providers that have been accepted, under their names. -/
theorem mem_cast_iff_accepted (history : List (Request σ V)) (name : String) (p : Provider σ V) :
    (name, p) ∈ Situation.cast (create.after history).modules <->
      name = p.moduleName ∧ Accepted history p := by
  induction history using List.reverseRecOn with
  | nil =>
      constructor
      · intro hmem
        cases hmem
      · rintro ⟨_, _, _, hsplit, _⟩
        simp at hsplit
  | append_singleton history request ih =>
      have hsame : (forall q, request ≠ .addProvider q) ->
          Situation.cast ((create.after history).serve request).1.modules =
            Situation.cast (create.after history).modules ->
          ((name, p) ∈ Situation.cast ((create.after history).serve request).1.modules <->
            name = p.moduleName ∧ Accepted (history ++ [request]) p) := by
        intro hother hcast
        rw [hcast, ih, accepted_concat]
        simp [hother p]
      rw [after_concat]
      cases request with
      | addProvider q =>
          rcases serve_addProvider (create.after history) q with
            ⟨hpreparing, hnew, hserve⟩ | ⟨⟨e, herror⟩, hserve⟩
          · have hok : (create.after history).addProvider q = .ok ((create.after history).load q) :=
              addProvider_eq_ok_iff.mpr ⟨hpreparing, hnew, rfl⟩
            rw [hserve, cast_load, List.mem_append, ih, accepted_concat, List.mem_singleton,
              Prod.mk.injEq]
            constructor
            · rintro (⟨hname, haccepted⟩ | ⟨hname, rfl⟩)
              · exact ⟨hname, Or.inl haccepted⟩
              · exact ⟨hname, Or.inr ⟨rfl, _, hok⟩⟩
            · rintro ⟨hname, haccepted | ⟨heq, _⟩⟩
              · exact Or.inl ⟨hname, haccepted⟩
              · cases heq
                exact Or.inr ⟨hname, rfl⟩
          · rw [hserve, ih, accepted_concat]
            refine and_congr_right fun _ => ⟨Or.inl, fun h => h.resolve_right ?_⟩
            rintro ⟨heq, m', hok⟩
            cases heq
            cases herror.symm.trans hok
      | find moduleName => exact hsame (fun _ heq => nomatch heq) rfl
      | shutdown world => exact hsame (fun _ heq => nomatch heq) rfl
      | bootstrap world =>
          exact hsame (fun _ heq => nomatch heq)
            (booted_bootstrap (sound_after history).names world).cast_eq

/-!
## Startups of a history

Only a startup in which all prepares go well ends the time of loading.
-/

/-- At some point of the history these modules are loaded, and a startup finds this order. -/
def StartsUp (history : List (Request σ V)) (modules : List (LoadedModule σ V)) (world : σ)
    (order : List Nat) : Prop :=
  exists earlier later, history = earlier ++ .bootstrap world :: later ∧
    (create.after earlier).preparing = true ∧ (create.after earlier).modules = modules ∧
    StartupOrder.compute (modules.map LoadedModule.needs) = .ok order

/-- In some startup of the history, every prepare has gone well. -/
def HasPrepared (history : List (Request σ V)) : Prop :=
  exists modules world order ready, StartsUp history modules world order ∧
    Went order { modules, world } (order.map (Hook.mk .prepare)) ready

/-- In some startup of the history, the registry of the module has accepted this implementation from
the prepare of the module. -/
def Registered (history : List (Request σ V)) (name : String) (c : Capability) (v : V) : Prop :=
  exists modules world order n k, StartsUp history modules world order ∧
    modules[n]? = some k ∧ k.name = name ∧ Registers order order { modules, world } n c v

theorem startsUp_concat : StartsUp (history ++ [request]) modules world order <->
    StartsUp history modules world order ∨
      request = .bootstrap world ∧ (create.after history).preparing = true ∧
        (create.after history).modules = modules ∧
        StartupOrder.compute (modules.map LoadedModule.needs) = .ok order :=
  exists_split_concat

theorem not_startsUp_nil : ¬StartsUp ([] : List (Request σ V)) modules world order := by
  rintro ⟨earlier, later, hsplit, _⟩
  simp at hsplit

theorem StartsUp.grows (h : StartsUp history modules world order) :
    Grows modules (create.after history).modules := by
  rcases h with ⟨earlier, later, rfl, _, rfl, _⟩
  exact grows_after earlier _

theorem hasPrepared_concat : HasPrepared (history ++ [request]) <-> HasPrepared history ∨
    exists world order ready, request = .bootstrap world ∧
      (create.after history).preparing = true ∧
      StartupOrder.compute ((create.after history).modules.map LoadedModule.needs) = .ok order ∧
      Went order { modules := (create.after history).modules, world }
        (order.map (Hook.mk .prepare)) ready := by
  constructor
  · rintro ⟨modules, world, order, ready, hstarts, hready⟩
    rcases startsUp_concat.mp hstarts with hearlier | ⟨rfl, hpreparing, rfl, horder⟩
    · exact Or.inl ⟨modules, world, order, ready, hearlier, hready⟩
    · exact Or.inr ⟨world, order, ready, rfl, hpreparing, horder, hready⟩
  · rintro (⟨modules, world, order, ready, hearlier, hready⟩ |
      ⟨world, order, ready, rfl, hpreparing, horder, hready⟩)
    · exact ⟨modules, world, order, ready, startsUp_concat.mpr (Or.inl hearlier), hready⟩
    · exact ⟨_, world, order, ready,
        startsUp_concat.mpr (Or.inr ⟨rfl, hpreparing, rfl, horder⟩), hready⟩

/-- Only a startup in which all prepares go well ends the time of loading. -/
theorem preparing_serve_eq_false_iff (hnames : m.moduleNames.Nodup) :
    (m.serve request).1.preparing = false <-> m.preparing = false ∨
      exists world order ready, request = .bootstrap world ∧ m.preparing = true ∧
        StartupOrder.compute (m.modules.map LoadedModule.needs) = .ok order ∧
        Went order { modules := m.modules, world } (order.map (Hook.mk .prepare)) ready := by
  cases request with
  | addProvider p =>
      rcases serve_addProvider m p with ⟨_, _, hserve⟩ | ⟨_, hserve⟩
      · simp [hserve, load]
      · simp [hserve]
  | find moduleName => simp [serve]
  | shutdown world => simp [serve]
  | bootstrap world =>
      show (m.bootstrap world).1.preparing = false <-> _
      have hbooted := booted_bootstrap hnames world
      generalize (m.bootstrap world).1 = m', (m.bootstrap world).2 = lived at hbooted ⊢
      cases hbooted with
      | refused hprepared => simp [hprepared]
      | unsequenced hpreparing hstuck => simp [hpreparing, hstuck]
      | @halted order done last e hpreparing horder hdone =>
          simp only [hpreparing, Bool.true_eq_false, false_or, false_iff]
          rintro ⟨world', order', ready, heq, _, horder', hready⟩
          cases heq
          cases horder.symm.trans horder'
          rw [← List.append_nil (order.map (Hook.mk .prepare))] at hdone
          rcases hdone.resume hready with ⟨rest, _, hnothing⟩
          cases hnothing.of_nil.right
      | launched hpreparing horder hready _ =>
          exact ⟨fun _ => Or.inr ⟨world, _, _, rfl, hpreparing, horder, hready⟩, fun _ => rfl⟩

theorem hasPrepared_iff (history : List (Request σ V)) :
    HasPrepared history <-> (create.after history).preparing = false := by
  induction history using List.reverseRecOn with
  | nil =>
      constructor
      · rintro ⟨modules, world, order, ready, hstarts, _⟩
        exact absurd hstarts not_startsUp_nil
      · intro hprepared
        cases hprepared
  | append_singleton history request ih =>
      rw [hasPrepared_concat, after_concat, ih,
        preparing_serve_eq_false_iff (sound_after history).names]

/-!
## What is registered
-/

theorem registered_concat {name : String} : Registered (history ++ [request]) name c v <->
    Registered history name c v ∨ exists world order n k, request = .bootstrap world ∧
      (create.after history).preparing = true ∧
      StartupOrder.compute ((create.after history).modules.map LoadedModule.needs) = .ok order ∧
      (create.after history).modules[n]? = some k ∧ k.name = name ∧
      Registers order order { modules := (create.after history).modules, world } n c v := by
  constructor
  · rintro ⟨modules, world, order, n, k, hstarts, hk, hname, hregisters⟩
    rcases startsUp_concat.mp hstarts with hearlier | ⟨rfl, hpreparing, rfl, horder⟩
    · exact Or.inl ⟨modules, world, order, n, k, hearlier, hk, hname, hregisters⟩
    · exact Or.inr ⟨world, order, n, k, rfl, hpreparing, horder, hk, hname, hregisters⟩
  · rintro (⟨modules, world, order, n, k, hearlier, hmore⟩ |
      ⟨world, order, n, k, rfl, hpreparing, horder, hmore⟩)
    · exact ⟨modules, world, order, n, k, startsUp_concat.mpr (Or.inl hearlier), hmore⟩
    · exact ⟨_, world, order, n, k,
        startsUp_concat.mpr (Or.inr ⟨rfl, hpreparing, rfl, horder⟩), hmore⟩

theorem Registered.loaded {name : String} (h : Registered history name c v) :
    name ∈ (create.after history).moduleNames := by
  rcases h with ⟨modules, world, order, n, k, hstarts, hk, rfl, _⟩
  rcases hstarts.grows n k hk with ⟨k', hk', _, hgrows⟩
  exact List.mem_map.mpr ⟨k', List.mem_of_getElem? hk', hgrows.owner⟩

theorem eq_of_name_eq (hnames : m.moduleNames.Nodup) {n n' : Nat} {k k' : LoadedModule σ V}
    (hk : m.modules[n]? = some k) (hk' : m.modules[n']? = some k') (hname : k'.name = k.name) :
    n' = n := by
  have hlt : n' < m.moduleNames.length := by
    rw [moduleNames, List.length_map]
    exact (List.getElem?_eq_some_iff.mp hk').1
  apply (List.getElem?_inj hlt hnames).mp
  rw [moduleNames, List.getElem?_map, List.getElem?_map, hk, hk']
  exact congrArg some hname

theorem mem_services_of_prepares {done : List Hook} {last : Situation σ V}
    {result : Except ModuleError Unit}
    (hregistered : forall k, k ∈ (create.after history).modules -> forall c v,
      (c, v) ∈ k.registry.services <-> Registered history k.name c v)
    (hpreparing : (create.after history).preparing = true)
    (horder : StartupOrder.compute ((create.after history).modules.map LoadedModule.needs) =
      .ok order)
    (hdone : CarriedOut order { modules := (create.after history).modules, world }
      (order.map (Hook.mk .prepare)) done last result) {k : LoadedModule σ V}
    (hk : k ∈ last.modules) (c : Capability) (v : V) :
    (c, v) ∈ k.registry.services <->
      Registered (history ++ [.bootstrap world]) k.name c v := by
  rcases List.mem_iff_getElem?.mp hk with ⟨n, hn⟩
  rcases exists_of_cast_eq hdone.cast_eq hn with ⟨k₀, hn₀, hname, _⟩
  rw [hdone.mem_services_iff hn₀ hn, hregistered k₀ (List.mem_of_getElem? hn₀), hname,
    registered_concat]
  apply or_congr_right
  constructor
  · intro hregisters
    exact ⟨world, order, n, k₀, rfl, hpreparing, horder, hn₀, hname, hregisters⟩
  · rintro ⟨world', order', n', k', heq, _, horder', hk', hname', hregisters⟩
    cases heq
    cases horder.symm.trans horder'
    rw [eq_of_name_eq (sound_after history).names hn₀ hk' (hname'.trans hname.symm)] at hregisters
    exact hregisters

/-- Registries hold what the prepares of their own modules have registered, and nothing else. -/
theorem mem_services_iff_registered (history : List (Request σ V)) :
    forall k, k ∈ (create.after history).modules -> forall c v,
      (c, v) ∈ k.registry.services <-> Registered history k.name c v := by
  induction history using List.reverseRecOn with
  | nil =>
      intro k hk
      cases hk
  | append_singleton history request ih =>
      -- Whatever is not a startup leaves the registries as they are.
      have hsame : (forall world, request ≠ .bootstrap world) ->
          forall k, k ∈ (create.after history).modules -> forall c v,
            (c, v) ∈ k.registry.services <-> Registered (history ++ [request]) k.name c v := by
        intro hother k hk c v
        rw [ih k hk, registered_concat]
        refine ⟨Or.inl, fun h => h.resolve_right ?_⟩
        rintro ⟨world, _, _, _, heq, _⟩
        exact hother world heq
      rw [after_concat]
      cases request with
      | addProvider p =>
          have hkept := hsame fun world heq => by cases heq
          rcases serve_addProvider (create.after history) p with ⟨_, hnew, hserve⟩ | ⟨_, hserve⟩
          · rw [hserve]
            intro k hk c v
            rcases List.mem_append.mp hk with hold | hadded
            · exact hkept k hold c v
            · rw [List.mem_singleton.mp hadded, registered_concat]
              constructor
              · intro hmem
                cases hmem
              · rintro (hregistered | ⟨_, _, _, _, heq, _⟩)
                · exact absurd hregistered.loaded hnew
                · cases heq
          · rw [hserve]
            exact hkept
      | find moduleName => exact hsame fun world heq => by cases heq
      | shutdown world => exact hsame fun world heq => by cases heq
      | bootstrap world =>
          show forall k, k ∈ ((create.after history).bootstrap world).1.modules -> _
          have hbooted := booted_bootstrap (sound_after history).names world
          generalize ((create.after history).bootstrap world).1 = m',
            ((create.after history).bootstrap world).2 = lived at hbooted ⊢
          intro k hk c v
          cases hbooted with
          | refused hprepared =>
              rw [ih k hk, registered_concat]
              refine ⟨Or.inl, fun h => h.resolve_right ?_⟩
              rintro ⟨_, _, _, _, _, hpreparing, _⟩
              cases hprepared.symm.trans hpreparing
          | unsequenced _ hstuck =>
              rw [ih k hk, registered_concat]
              refine ⟨Or.inl, fun h => h.resolve_right ?_⟩
              rintro ⟨_, _, _, _, _, _, horder, _⟩
              cases hstuck.symm.trans horder
          | halted hpreparing horder hdone =>
              exact mem_services_of_prepares ih hpreparing horder hdone hk c v
          | launched hpreparing horder hready _ =>
              exact mem_services_of_prepares ih hpreparing horder (CarriedOut.whole hready) hk c v

/-!
## The whole life

As long as no startup finds an order, a manager is the one that has loaded its modules and has not
been asked for anything else.
-/

theorem addProvider_eq_error_iff {e : ModuleError} : m.addProvider p = .error e <->
    (m.preparing = false ∧
        e = .moduleConfig ("cannot load module '" ++ p.moduleName ++ "' after bootstrap")) ∨
      (m.preparing = true ∧ p.moduleName ∈ m.moduleNames ∧ e = .duplicateModule p.moduleName) := by
  unfold addProvider
  rw [← has_eq_true_iff]
  by_cases hpreparing : m.preparing = true
  · by_cases hhas : m.has p.moduleName = true
    · simp only [hpreparing, hhas, Bool.not_true, Bool.false_eq_true, Bool.true_eq_false, if_false,
        if_true, Except.error.injEq, false_and, true_and, false_or]
      exact eq_comm
    · simp [hpreparing, hhas]
  · have hprepared : m.preparing = false := by simpa using hpreparing
    simp only [hprepared, Bool.not_false, Bool.false_eq_true, if_true, Except.error.injEq,
      false_and, true_and, or_false]
    exact eq_comm

theorem find_eq_ok_iff (hnames : m.moduleNames.Nodup) {name : String} {r : Registry V} :
    m.find name = .ok r <->
      m.preparing = false ∧ exists k, k ∈ m.modules ∧ k.name = name ∧ k.registry = r := by
  unfold find ModulesView.find
  by_cases hpreparing : m.preparing = true
  · simp [view, hpreparing]
  · rw [if_neg (show ¬m.view.preparing = true from hpreparing)]
    have hprepared : m.preparing = false := by simpa using hpreparing
    have hfound : m.view.registries.find? (fun registry => registry.owner == name) = some r <->
        exists k, k ∈ m.modules ∧ k.name = name ∧ k.registry = r := by
      constructor
      · intro hfind
        rcases List.mem_map.mp (List.mem_of_find?_eq_some hfind) with ⟨k, hk, hregistry⟩
        have hname : r.owner = name := by simpa using List.find?_some hfind
        exact ⟨k, hk, (congrArg Registry.owner hregistry).trans hname, hregistry⟩
      · rintro ⟨k, hk, hname, rfl⟩
        have hmem : k.registry ∈ m.view.registries := List.mem_map_of_mem hk
        have howners : (m.view.registries.map Registry.owner).Nodup := by
          rw [view, List.map_map]
          exact hnames
        cases hfind : m.view.registries.find? fun registry => registry.owner == name with
        | none =>
            have hnot := List.find?_eq_none.mp hfind k.registry hmem
            rw [LoadedModule.name] at hname
            simp [hname] at hnot
        | some registry =>
            have howner : registry.owner = name := by simpa using List.find?_some hfind
            have heq := List.inj_on_of_nodup_map howners (List.mem_of_find?_eq_some hfind) hmem
              (howner.trans hname.symm)
            rw [heq]
    rw [← hfound]
    cases m.view.registries.find? fun registry => registry.owner == name with
    | none => simp
    | some registry => simp [hprepared]

theorem bootstrap_of_prepared (hprepared : m.preparing = false) (world : σ) :
    m.bootstrap world =
      (m, { world, calls := []
            result := .error (.moduleConfig "modules already bootstrapped") }) := by
  simp [bootstrap, hprepared]

theorem bootstrap_of_unsequenced (hpreparing : m.preparing = true) {e : ModuleError}
    (hstuck : StartupOrder.compute (m.modules.map LoadedModule.needs) = .error e) (world : σ) :
    m.bootstrap world = (m, { world, calls := [], result := .error e }) := by
  simp [bootstrap, hpreparing, hstuck]

theorem eq_of_never_sequenced
    (h : forall earlier world later, history = earlier ++ .bootstrap world :: later ->
      exists e, StartupOrder.compute ((create.after earlier).modules.map LoadedModule.needs) =
        .error e) :
    create.after history =
      create.after ((create.after history).modules.map fun k => .addProvider k.provider) := by
  induction history using List.reverseRecOn with
  | nil => rfl
  | append_singleton history request ih =>
      have hsame := ih fun earlier world later hsplit =>
        h earlier world (later ++ [request]) (by rw [hsplit, List.append_assoc, List.cons_append])
      rw [after_concat]
      cases request with
      | addProvider p =>
          rcases serve_addProvider (create.after history) p with ⟨_, _, hserve⟩ | ⟨_, hserve⟩
          · have hmodules : ((create.after history).load p).modules.map
                (fun k => Request.addProvider k.provider) =
                  (create.after history).modules.map (fun k => .addProvider k.provider) ++
                    [.addProvider p] := List.map_append
            rw [hserve, hmodules, after_concat, ← hsame, hserve]
          · rw [hserve]
            exact hsame
      | find moduleName => exact hsame
      | shutdown world => exact hsame
      | bootstrap world =>
          show ((create.after history).bootstrap world).1 = _
          rcases h history world [] rfl with ⟨e, hstuck⟩
          by_cases hpreparing : (create.after history).preparing = true
          · rw [serve, bootstrap_of_unsequenced hpreparing hstuck]
            exact hsame
          · rw [serve, bootstrap_of_prepared (by simpa using hpreparing)]
            exact hsame

/-- What a manager promises after a history of requests. -/
structure Lawful (history : List (Request σ V)) (m : Manager σ V) : Prop where
  /-- The names of the modules are distinct. -/
  names : m.moduleNames.Nodup
  /-- A provider is loaded unless its module is there or the prepares are over. -/
  loaded : forall p, (exists m', m.addProvider p = .ok m') <->
    ¬HasPrepared history ∧ p.moduleName ∉ m.moduleNames
  /-- The modules are those of the providers that have been accepted, under their names. -/
  accepted : forall name p, (exists k, k ∈ m.modules ∧ k.name = name ∧ k.provider = p) <->
    name = p.moduleName ∧ Accepted history p
  /-- A provider that is not loaded changes nothing. -/
  rejected : forall p e, m.addProvider p = .error e -> m.serve (.addProvider p) = (m, []) ∧
    (HasPrepared history ∧
        e = .moduleConfig ("cannot load module '" ++ p.moduleName ++ "' after bootstrap") ∨
      ¬HasPrepared history ∧ p.moduleName ∈ m.moduleNames ∧ e = .duplicateModule p.moduleName)
  /-- Registries are found once all prepares of a startup have gone well. -/
  found : forall name r, m.find name = .ok r <->
    HasPrepared history ∧ exists k, k ∈ m.modules ∧ k.name = name ∧ k.registry = r
  /-- From then on the modules have their order. -/
  sequence : HasPrepared history -> m.startupSequence.Perm m.moduleNames
  /-- A registry holds what its own module has registered while it prepared, and nothing else. -/
  registered : forall k, k ∈ m.modules -> forall c v,
    (c, v) ∈ k.registry.services <-> Registered history k.name c v
  /-- From then on nothing can be registered. -/
  frozen : HasPrepared history -> forall k, k ∈ m.modules -> k.registry.frozen = true
  /-- From then on every startup is refused, and no hook is called. -/
  refused : HasPrepared history -> forall world, m.bootstrap world =
    (m, { world, calls := [], result := .error (.moduleConfig "modules already bootstrapped") })
  /-- No module starts twice. -/
  once : forall name, (create.calls history).count (HookCall.mk .start name) ≤ 1
  /-- What was loaded or registered after a part of the history is still there, and what was frozen
  is as it was. -/
  kept : forall earlier later, history = earlier ++ later ->
    Grows (create.after earlier).modules m.modules
  /-- The same holds for what is there between two hooks of a startup. -/
  keptWithin : forall modules world order before more now, StartsUp history modules world order ->
    schedule order = before ++ more -> Went order { modules, world } before now ->
      Grows modules now.modules ∧ Grows now.modules m.modules
  /-- A startup that finds no order changes nothing, and no hook is called. -/
  unsequenced : ¬HasPrepared history -> forall e,
    StartupOrder.compute (m.modules.map LoadedModule.needs) = .error e -> forall world,
      m.bootstrap world = (m, { world, calls := [], result := .error e })
  /-- While all startups are of this kind, the manager is a new one with the same modules. -/
  fresh : (forall earlier world later, history = earlier ++ .bootstrap world :: later ->
      exists e, StartupOrder.compute ((create.after earlier).modules.map LoadedModule.needs) =
        .error e) ->
    m = create.after (m.modules.map fun k => .addProvider k.provider)

theorem filterMap_range_getElem? {α : Type} (l : List α) :
    ((List.range l.length).filterMap fun n => l[n]?) = l := by
  induction l with
  | nil => rfl
  | cons a l ih =>
      rw [List.length_cons, List.range_succ_eq_map, List.filterMap_cons, List.filterMap_map]
      exact congrArg (List.cons a) ih

theorem startupSequence_perm (h : m.sequence.Perm (List.range m.modules.length)) :
    m.startupSequence.Perm m.moduleNames := by
  have hstarted : m.started.Perm m.modules := by
    conv_rhs => rw [← filterMap_range_getElem? m.modules]
    exact h.filterMap _
  exact hstarted.map LoadedModule.name

/-- A manager is lawful whatever it is asked, and whatever its hooks do. -/
theorem lawful_after (history : List (Request σ V)) : Lawful history (create.after history) := by
  have hsound := sound_after history
  have hprepared := hasPrepared_iff history
  have hunprepared : ¬HasPrepared history <-> (create.after history).preparing = true := by
    rw [hprepared]
    simp
  constructor
  · exact hsound.names
  · intro p
    simp only [addProvider_eq_ok_iff, hunprepared]
    simp
  · intro name p
    rw [← mem_cast_iff_accepted, Situation.cast, List.mem_map]
    simp only [Prod.mk.injEq]
  · intro p e hrejected
    rw [hunprepared, hprepared, ← addProvider_eq_error_iff]
    exact ⟨by rw [serve, hrejected], hrejected⟩
  · intro name r
    rw [find_eq_ok_iff hsound.names, hprepared]
  · intro h
    exact startupSequence_perm (hsound.sequence (hprepared.mp h))
  · exact mem_services_iff_registered history
  · intro h
    exact hsound.frozen (hprepared.mp h)
  · intro h
    exact bootstrap_of_prepared (hprepared.mp h)
  · exact hsound.once
  · rintro earlier later rfl
    exact grows_after earlier later
  · rintro modules world order before more now ⟨earlier, later, rfl, hpreparing, rfl, horder⟩ hsplit
      hbefore
    have hnext := (booted_bootstrap (sound_after earlier).names world).grows_from hpreparing horder
      hsplit hbefore
    have hlater := grows_after (earlier ++ [.bootstrap world]) later
    rw [after_concat, List.append_assoc] at hlater
    exact ⟨hbefore.grows, hnext.trans hlater⟩
  · intro h e hstuck
    exact bootstrap_of_unsequenced (hunprepared.mp h) hstuck
  · exact eq_of_never_sequenced

end Manager
end ClusterNode
