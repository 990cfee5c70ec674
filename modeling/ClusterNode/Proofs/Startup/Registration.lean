import ClusterNode.Proofs.Startup.Lifecycle

/-!
# What a startup registers

A registry only grows, and once it is frozen it stays as it is. A preparation adds the services that
the registry accepts to those that are there. So the registry of a module holds what it held before
the startup and what the prepare of the module has registered, and once all modules have prepared,
all registries of the startup are frozen.
-/

namespace ClusterNode

/-!
## Registries

At a later time a registry has at least the services that it had. It takes a service unless it is
frozen or has one for the capability, so there is one implementation for each.
-/

namespace Registry

variable {V : Type} {r r' : Registry V} {c : Capability} {v : V}

structure Grows (r r' : Registry V) : Prop where
  owner : r'.owner = r.owner
  services : r.services <+: r'.services
  fixed : r.frozen = true -> r' = r

def Distinct (r : Registry V) : Prop := (r.services.map Prod.fst).Nodup

theorem Grows.refl (r : Registry V) : r.Grows r :=
  ⟨rfl, List.prefix_refl r.services, fun _ => rfl⟩

theorem Grows.trans {r'' : Registry V} (h : r.Grows r') (h' : r'.Grows r'') : r.Grows r'' := by
  constructor
  · exact h'.owner.trans h.owner
  · exact h.services.trans h'.services
  · intro hfrozen
    have hsame := h.fixed hfrozen
    rw [← hsame] at hfrozen
    rw [h'.fixed hfrozen, hsame]

theorem Grows.find? (h : r.Grows r') (hc : r.find? c = some v) : r'.find? c = some v := by
  rcases h.services with ⟨more, hmore⟩
  rcases Option.map_eq_some_iff.mp hc with ⟨found, hfound, hv⟩
  unfold Registry.find?
  rw [← hmore, List.find?_append, hfound]
  exact congrArg some hv

theorem distinct_create (owner : String) : (create owner : Registry V).Distinct :=
  List.nodup_nil

theorem Distinct.find?_eq_some_iff (h : r.Distinct) :
    r.find? c = some v <-> (c, v) ∈ r.services := by
  constructor
  · intro hv
    rcases Option.map_eq_some_iff.mp hv with ⟨found, hfound, hw⟩
    have hkey : found.1 = c := by simpa using List.find?_some hfound
    rw [← hkey, ← hw]
    exact List.mem_of_find?_eq_some hfound
  · intro hmem
    cases hw : r.find? c with
    | none =>
        have hnot := List.find?_eq_none.mp (Option.map_eq_none_iff.mp hw) (c, v) hmem
        simp at hnot
    | some w =>
        rcases Option.map_eq_some_iff.mp hw with ⟨found, hfound, hfound'⟩
        have hkey : found.1 = c := by simpa using List.find?_some hfound
        have heq := List.inj_on_of_nodup_map h (List.mem_of_find?_eq_some hfound) hmem hkey
        rw [← hfound', heq]

theorem contains_eq_true_iff : r.contains c = true <-> exists v, r.find? c = some v :=
  Option.isSome_iff_exists

theorem register_eq_ok_iff : r.register c v = .ok r' <->
    r.frozen = false ∧ r.contains c = false ∧
      r' = { r with services := r.services ++ [(c, v)] } := by
  unfold register
  cases r.frozen with
  | true => simp
  | false =>
      cases r.contains c with
      | true => simp
      | false => simp [eq_comm]

theorem Grows.of_register (h : r.register c v = .ok r') : r.Grows r' := by
  rcases register_eq_ok_iff.mp h with ⟨hwritable, _, rfl⟩
  refine ⟨rfl, List.prefix_append _ _, ?_⟩
  intro hfrozen
  cases hwritable.symm.trans hfrozen

theorem Distinct.register (hdistinct : r.Distinct) (h : r.register c v = .ok r') :
    r'.Distinct := by
  rcases register_eq_ok_iff.mp h with ⟨_, hmissing, rfl⟩
  unfold Distinct at hdistinct ⊢
  rw [List.map_append, List.map_singleton, ← List.concat_eq_append, List.nodup_concat]
  refine ⟨?_, hdistinct⟩
  intro hmem
  rcases List.mem_map.mp hmem with ⟨⟨key, w⟩, hservice, rfl⟩
  have hfound := contains_eq_true_iff.mpr ⟨w, (Distinct.find?_eq_some_iff hdistinct).mpr hservice⟩
  cases hmissing.symm.trans hfound

theorem grows_freeze (r : Registry V) : r.Grows r.freeze := by
  refine ⟨rfl, List.prefix_refl _, ?_⟩
  intro hfrozen
  unfold freeze
  rw [← hfrozen]

end Registry

/-!
## Preparations
-/

namespace Preparation

variable {σ V : Type}

def accepted : Preparation σ V -> Registry V -> List (Capability × V)
  | ended _ _, _ => []
  | register c v next, r =>
      match r.register c v with
      | .ok r' => (c, v) :: (next (.ok ())).accepted r'
      | .error e => (next (.error e)).accepted r

theorem services_run (p : Preparation σ V) (r : Registry V) :
    (p.run r).1.services = r.services ++ p.accepted r := by
  induction p generalizing r with
  | ended world outcome => exact (List.append_nil r.services).symm
  | register c v next ih =>
      rw [run, accepted]
      cases hregister : r.register c v with
      | error e => exact ih (.error e) r
      | ok r' =>
          rcases Registry.register_eq_ok_iff.mp hregister with ⟨_, _, rfl⟩
          dsimp only
          rw [ih, List.append_assoc]
          rfl

theorem grows_run (p : Preparation σ V) (r : Registry V) : r.Grows (p.run r).1 := by
  induction p generalizing r with
  | ended world outcome => exact Registry.Grows.refl r
  | register c v next ih =>
      rw [run]
      cases hregister : r.register c v with
      | error e => exact ih (.error e) r
      | ok r' => exact (Registry.Grows.of_register hregister).trans (ih (.ok ()) r')

theorem distinct_run (p : Preparation σ V) {r : Registry V} (h : r.Distinct) :
    (p.run r).1.Distinct := by
  induction p generalizing r with
  | ended world outcome => exact h
  | register c v next ih =>
      rw [run]
      cases hregister : r.register c v with
      | error e => exact ih (.error e) h
      | ok r' => exact ih (.ok ()) (h.register hregister)

end Preparation

/-!
## Loaded modules

At a later time each module is still there, and its registry has at most grown.
-/

namespace Situation

variable {σ V : Type} {order : List Nat} {s next last : Situation σ V} {done plan : List Hook}
  {result : Except ModuleError Unit} {modules modules' : List (LoadedModule σ V)} {n : Nat}
  {m m' : LoadedModule σ V}

def Grows (modules modules' : List (LoadedModule σ V)) : Prop :=
  forall (n : Nat) (m : LoadedModule σ V), modules[n]? = some m ->
    exists m', modules'[n]? = some m' ∧ m'.provider = m.provider ∧ m.registry.Grows m'.registry

def Distinct (modules : List (LoadedModule σ V)) : Prop :=
  forall m, m ∈ modules -> m.registry.Distinct

theorem Grows.refl (modules : List (LoadedModule σ V)) : Grows modules modules :=
  fun _ m hm => ⟨m, hm, rfl, Registry.Grows.refl m.registry⟩

theorem Grows.trans {modules'' : List (LoadedModule σ V)} (h : Grows modules modules')
    (h' : Grows modules' modules'') : Grows modules modules'' := by
  intro n m hm
  rcases h n m hm with ⟨m', hm', hprovider, hregistry⟩
  rcases h' n m' hm' with ⟨m'', hm'', hprovider', hregistry'⟩
  exact ⟨m'', hm'', hprovider'.trans hprovider, hregistry.trans hregistry'⟩

theorem grows_set {registry : Registry V} (hm : modules[n]? = some m)
    (hgrows : m.registry.Grows registry) :
    Grows modules (modules.set n { m with registry }) := by
  intro k l hl
  by_cases hk : n = k
  · subst hk
    cases hm.symm.trans hl
    refine ⟨{ m with registry }, ?_, rfl, hgrows⟩
    rw [List.getElem?_set_self (List.getElem?_eq_some_iff.mp hm).1]
  · rw [List.getElem?_set_ne hk]
    exact ⟨l, hl, rfl, Registry.Grows.refl l.registry⟩

theorem Distinct.set {registry : Registry V} (h : Distinct modules)
    (hregistry : registry.Distinct) (m : LoadedModule σ V) (n : Nat) :
    Distinct (modules.set n { m with registry }) := by
  intro l hl
  rcases List.mem_or_eq_of_mem_set hl with hold | rfl
  · exact h l hold
  · exact hregistry

/-!
## Prepares

A prepare adds what the registry accepts from it, and the registry is frozen when the prepare goes
well. The other hooks leave the modules as they are.
-/

def accepts (s : Situation σ V) (m : LoadedModule σ V) : List (Capability × V) :=
  (m.provider.prepare m.registry s.world).accepted m.registry

theorem perform_prepare (order : List Nat) (hm : s.modules[n]? = some m) :
    exists registry, (s.perform order ⟨.prepare, n⟩).1.modules =
        s.modules.set n { m with registry } ∧
      m.registry.Grows registry ∧ registry.services = m.registry.services ++ s.accepts m ∧
      (m.registry.Distinct -> registry.Distinct) ∧
      ((s.perform order ⟨.prepare, n⟩).2 = .ok () -> registry.frozen = true) := by
  have hgrows := Preparation.grows_run (m.provider.prepare m.registry s.world) m.registry
  have hservices := Preparation.services_run (m.provider.prepare m.registry s.world) m.registry
  have hdistinct := @Preparation.distinct_run σ V (m.provider.prepare m.registry s.world) m.registry
  unfold perform
  rw [hm]
  dsimp only
  rcases hrun : (m.provider.prepare m.registry s.world).run m.registry with
    ⟨registry, world, outcome⟩
  rw [hrun] at hgrows hservices hdistinct
  cases outcome with
  | error failure => exact ⟨registry, rfl, hgrows, hservices, hdistinct, fun h => by cases h⟩
  | ok _ =>
      exact ⟨registry.freeze, rfl, hgrows.trans (Registry.grows_freeze registry), hservices,
        hdistinct, fun _ => rfl⟩

theorem perform_of_missing (order : List Nat) {h : Hook} (hm : s.modules[h.index]? = none) :
    s.perform order h = (s, .ok ()) := by
  unfold perform
  rw [hm]

theorem modules_perform (order : List Nat) {h : Hook} (hphase : h.phase ≠ .prepare) :
    (s.perform order h).1.modules = s.modules := by
  unfold perform
  cases s.modules[h.index]? with
  | none => rfl
  | some m =>
      cases hp : h.phase with
      | prepare => exact absurd hp hphase
      | start => rfl
      | afterAllStarted => rfl
      | stop => rfl

theorem grows_perform (order : List Nat) (s : Situation σ V) (h : Hook) :
    Grows s.modules (s.perform order h).1.modules := by
  rcases h with ⟨phase, n⟩
  by_cases hphase : phase = .prepare
  · subst hphase
    cases hm : s.modules[n]? with
    | none =>
        rw [perform_of_missing order hm]
        exact Grows.refl s.modules
    | some m =>
        rcases perform_prepare order hm with ⟨registry, hmodules, hgrows, _⟩
        rw [hmodules]
        exact grows_set hm hgrows
  · rw [modules_perform order hphase]
    exact Grows.refl s.modules

theorem distinct_perform (order : List Nat) (h : Hook) (hdistinct : Distinct s.modules) :
    Distinct (s.perform order h).1.modules := by
  rcases h with ⟨phase, n⟩
  by_cases hphase : phase = .prepare
  · subst hphase
    cases hm : s.modules[n]? with
    | none =>
        rw [perform_of_missing order hm]
        exact hdistinct
    | some m =>
        rcases perform_prepare order hm with ⟨registry, hmodules, _, _, hregistry, _⟩
        rw [hmodules]
        exact hdistinct.set (hregistry (hdistinct m (List.mem_of_getElem? hm))) m n
  · rw [modules_perform order hphase]
    exact hdistinct

/-!
## Plans

What is carried out of a plan is a part that has gone well, and then perhaps a hook that has failed.
Once modules have prepared, their registries are frozen.
-/

theorem Went.grows (h : Went order s done last) : Grows s.modules last.modules := by
  induction h with
  | nil s => exact Grows.refl s.modules
  | @cons s next last hook rest _ hperform _ ih =>
      have hstep := grows_perform order s hook
      rw [hperform] at hstep
      exact hstep.trans ih

theorem Went.distinct (h : Went order s done last) (hdistinct : Distinct s.modules) :
    Distinct last.modules := by
  induction h with
  | nil s => exact hdistinct
  | @cons s next last hook rest _ hperform _ ih =>
      have hstep := distinct_perform order hook hdistinct
      rw [hperform] at hstep
      exact ih hstep

theorem Went.modules_eq (h : Went order s done last)
    (hphase : forall hook, hook ∈ done -> hook.phase ≠ .prepare) :
    last.modules = s.modules := by
  induction h with
  | nil s => rfl
  | @cons s next last hook rest _ hperform _ ih =>
      have hstep := modules_perform (s := s) order (hphase hook List.mem_cons_self)
      rw [hperform] at hstep
      rw [ih fun other hother => hphase other (List.mem_cons_of_mem hook hother)]
      exact hstep

theorem CarriedOut.went_or_failed (h : CarriedOut order s plan done last result) :
    Went order s done last ∨ exists before hook now failure, done = before ++ [hook] ∧
      Went order s before now ∧ now.perform order hook = (last, .error failure) := by
  cases h with
  | whole hplan => exact Or.inl hplan
  | failed _ hbefore _ _ hperform => exact Or.inr ⟨_, _, _, _, rfl, hbefore, hperform⟩
  | barred _ hbefore _ => exact Or.inl hbefore

theorem CarriedOut.grows (h : CarriedOut order s plan done last result) :
    Grows s.modules last.modules := by
  rcases h.went_or_failed with hwent | ⟨before, hook, now, failure, _, hbefore, hperform⟩
  · exact hwent.grows
  · have hstep := grows_perform order now hook
    rw [hperform] at hstep
    exact hbefore.grows.trans hstep

theorem CarriedOut.cast_eq (h : CarriedOut order s plan done last result) :
    cast last.modules = cast s.modules := by
  rcases h.went_or_failed with hwent | ⟨before, hook, now, failure, _, hbefore, hperform⟩
  · exact hwent.cast_eq
  · have hstep := cast_perform order now hook
    rw [hperform] at hstep
    exact hstep.trans hbefore.cast_eq

theorem CarriedOut.distinct (h : CarriedOut order s plan done last result)
    (hdistinct : Distinct s.modules) : Distinct last.modules := by
  rcases h.went_or_failed with hwent | ⟨before, hook, now, failure, _, hbefore, hperform⟩
  · exact hwent.distinct hdistinct
  · have hstep := distinct_perform order hook (hbefore.distinct hdistinct)
    rw [hperform] at hstep
    exact hstep

theorem CarriedOut.modules_eq (h : CarriedOut order s plan done last result)
    (hphase : forall hook, hook ∈ plan -> hook.phase ≠ .prepare) :
    last.modules = s.modules := by
  have hdone : forall hook, hook ∈ done -> hook.phase ≠ .prepare :=
    fun hook hhook => hphase hook (h.initial.subset hhook)
  rcases h.went_or_failed with hwent | ⟨before, hook, now, failure, rfl, hbefore, hperform⟩
  · exact hwent.modules_eq hdone
  · have hstep := modules_perform (s := now) order
      (hdone hook (List.mem_append_right before (List.mem_singleton_self hook)))
    rw [hperform] at hstep
    rw [← hbefore.modules_eq fun other hother => hdone other (List.mem_append_left _ hother)]
    exact hstep

/-- Once modules have prepared, their registries are frozen. -/
theorem Went.frozen {ns : List Nat} (h : Went order s (ns.map (Hook.mk .prepare)) last)
    (hn : n ∈ ns) (hm : last.modules[n]? = some m) : m.registry.frozen = true := by
  induction ns generalizing s with
  | nil => cases hn
  | cons k rest ih =>
      cases h with
      | @cons _ next _ _ _ _ hperform hrest =>
          rcases List.mem_cons.mp hn with rfl | hn
          · -- The rest of the prepares does not change what this one has frozen.
            cases hs : s.modules[n]? with
            | none =>
                rw [perform_of_missing order hs] at hperform
                cases hperform
                have hlength := congrArg List.length hrest.cast_eq
                simp only [cast, List.length_map] at hlength
                rw [List.getElem?_eq_none_iff, ← hlength, ← List.getElem?_eq_none_iff] at hs
                cases hs.symm.trans hm
            | some l =>
                rcases perform_prepare order hs with ⟨registry, hmodules, _, _, _, hfrozen⟩
                rw [hperform] at hmodules hfrozen
                have hmodules' : next.modules = s.modules.set n { l with registry } := hmodules
                have hnext : next.modules[n]? = some { l with registry } := by
                  rw [hmodules', List.getElem?_set_self (List.getElem?_eq_some_iff.mp hs).1]
                rcases hrest.grows n _ hnext with ⟨m', hm', _, hgrows⟩
                cases hm.symm.trans hm'
                rw [hgrows.fixed (hfrozen rfl)]
                exact hfrozen rfl
          · exact ih hrest hn

/-!
## Registrations

A prepare adds to the registry of its own module only. The first prepare of a plan registers, or it
goes well and a later one does.
-/

/-- The startup comes to the prepare of this module, and the registry accepts this implementation
from it. The modules are prepared in the order `ns`. -/
def Registers (order ns : List Nat) (s : Situation σ V) (n : Nat) (c : Capability) (v : V) :
    Prop :=
  exists before after now m, ns = before ++ n :: after ∧
    Went order s (before.map (Hook.mk .prepare)) now ∧ now.modules[n]? = some m ∧
    (c, v) ∈ now.accepts m

theorem CarriedOut.of_nil (h : CarriedOut order s [] done last result) :
    last = s ∧ result = .ok () := by
  cases h with
  | whole hplan =>
      cases hplan with
      | nil _ => exact ⟨rfl, rfl⟩
  | failed hsplit _ _ _ _ => simp at hsplit
  | barred hsplit _ _ => simp at hsplit

theorem CarriedOut.of_cons {h : Hook} {rest : List Hook}
    (hcarried : CarriedOut order s (h :: rest) done last result) :
    (exists e, s.barrier? h = some e) ∨
      (exists failure, s.perform order h = (last, .error failure)) ∨
      exists next more, s.perform order h = (next, .ok ()) ∧ done = h :: more ∧
        CarriedOut order next rest more last result := by
  cases hcarried with
  | whole hplan =>
      cases hplan with
      | cons _ hperform hrest =>
          exact Or.inr (Or.inr ⟨_, _, hperform, rfl, CarriedOut.whole hrest⟩)
  | @failed before after _ _ _ _ _ hsplit hbefore hfree hm hperform =>
      cases before with
      | nil =>
          cases hsplit
          cases hbefore
          exact Or.inr (Or.inl ⟨_, hperform⟩)
      | cons first more =>
          cases hsplit
          cases hbefore with
          | cons _ hperform' hbefore' =>
              exact Or.inr (Or.inr ⟨_, _, hperform', rfl,
                CarriedOut.failed rfl hbefore' hfree hm hperform⟩)
  | @barred _ after _ _ _ hsplit hbefore hbarrier =>
      cases done with
      | nil =>
          cases hsplit
          cases hbefore
          exact Or.inl ⟨_, hbarrier⟩
      | cons first more =>
          cases hsplit
          cases hbefore with
          | cons _ hperform' hbefore' =>
              exact Or.inr (Or.inr ⟨_, _, hperform', rfl,
                CarriedOut.barred rfl hbefore' hbarrier⟩)

theorem CarriedOut.resume {before more : List Hook} {now : Situation σ V}
    (h : CarriedOut order s (before ++ more) done last result)
    (hbefore : Went order s before now) :
    exists rest, done = before ++ rest ∧ CarriedOut order now more rest last result := by
  induction hbefore generalizing done with
  | nil s => exact ⟨done, rfl, h⟩
  | @cons s next now hook before hfree hperform _ ih =>
      rcases h.of_cons with ⟨e, hbarrier⟩ | ⟨failure, hfailed⟩ | ⟨next', more', hwell, rfl, hrest⟩
      · cases hfree.symm.trans hbarrier
      · cases hperform.symm.trans hfailed
      · cases hperform.symm.trans hwell
        rcases ih hrest with ⟨rest, rfl, hmore⟩
        exact ⟨rest, rfl, hmore⟩

theorem mem_services_perform (order : List Nat) {k : Nat} (hm : s.modules[k]? = some m) :
    exists m', (s.perform order ⟨.prepare, n⟩).1.modules[k]? = some m' ∧
      forall x, x ∈ m'.registry.services <->
        x ∈ m.registry.services ∨ n = k ∧ x ∈ s.accepts m := by
  by_cases hk : n = k
  · subst hk
    rcases perform_prepare order hm with ⟨registry, hmodules, _, hservices, _⟩
    refine ⟨{ m with registry }, ?_, ?_⟩
    · rw [hmodules, List.getElem?_set_self (List.getElem?_eq_some_iff.mp hm).1]
    · intro x
      show x ∈ registry.services <-> _
      rw [hservices, List.mem_append]
      simp
  · refine ⟨m, ?_, by simp [hk]⟩
    cases hs : s.modules[n]? with
    | none => rw [perform_of_missing order hs, hm]
    | some l =>
        rcases perform_prepare order hs with ⟨registry, hmodules, _⟩
        rw [hmodules, List.getElem?_set_ne hk, hm]

theorem registers_cons_iff {a : Nat} {rest : List Nat} (hm : s.modules[n]? = some m)
    (c : Capability) (v : V) :
    Registers order (a :: rest) s n c v <-> (a = n ∧ (c, v) ∈ s.accepts m) ∨
      exists next, s.perform order ⟨.prepare, a⟩ = (next, .ok ()) ∧
        Registers order rest next n c v := by
  constructor
  · rintro ⟨before, after, now, l, hsplit, hwent, hl, haccepted⟩
    cases before with
    | nil =>
        cases hsplit
        cases hwent
        cases hm.symm.trans hl
        exact Or.inl ⟨rfl, haccepted⟩
    | cons first more =>
        cases hsplit
        cases hwent with
        | cons _ hperform hwent' =>
            exact Or.inr ⟨_, hperform, more, after, now, l, rfl, hwent', hl, haccepted⟩
  · rintro (⟨rfl, haccepted⟩ | ⟨next, hperform, before, after, now, l, rfl, hwent, hl, haccepted⟩)
    · exact ⟨[], rest, s, m, rfl, Went.nil s, hm, haccepted⟩
    · exact ⟨a :: before, after, now, l, rfl, Went.cons rfl hperform hwent, hl, haccepted⟩

/-- The registry of a module holds what it held before, and what has been registered by its own
prepare. -/
theorem CarriedOut.mem_services_iff {ns : List Nat}
    (h : CarriedOut order s (ns.map (Hook.mk .prepare)) done last result)
    (hm : s.modules[n]? = some m) (hm' : last.modules[n]? = some m') (c : Capability) (v : V) :
    (c, v) ∈ m'.registry.services <->
      (c, v) ∈ m.registry.services ∨ Registers order ns s n c v := by
  induction ns generalizing s m done with
  | nil =>
      rw [h.of_nil.left] at hm'
      cases hm.symm.trans hm'
      have hnone : ¬Registers order [] s n c v := by
        rintro ⟨before, after, _, _, hsplit, _⟩
        simp at hsplit
      simp [hnone]
  | cons a rest ih =>
      rcases mem_services_perform (n := a) order hm with ⟨m₁, hm₁, hservices⟩
      rw [registers_cons_iff hm]
      rcases h.of_cons with ⟨e, hbarrier⟩ | ⟨failure, hperform⟩ | ⟨next, more, hperform, _, hrest⟩
      · cases (barrier?_eq_some hbarrier).left
      · rw [hperform] at hm₁
        cases hm'.symm.trans hm₁
        simp [hservices, hperform]
      · rw [hperform] at hm₁
        rw [ih hrest hm₁, hservices, or_assoc]
        simp [hperform]

end Situation
end ClusterNode
