import ClusterNode.Proofs.Startup.Discovery
import ClusterNode.Proofs.Startup.Requests
import ClusterNode.Startup.Catalog

/-!
# Loading an application

What becomes of an application that a new manager loads through a catalog. The entries are gone
through in order: an unknown module is left out and noted, a known one is created and loaded, and
the first known one that cannot be created decides, whatever has been noted. No name comes twice in
an application, and a created provider has the name of its entry, so loading never meets a
duplicate.
-/

namespace ClusterNode

/-!
## Applications
-/

namespace Application

/-- Applications that were put together module by module or come from a configuration tree. -/
inductive Built : Application -> Prop
  | empty : Built .empty
  | add {a : Application} (name : String) (choice : ModuleChoice) :
      Built a -> Built (a.addModule name choice)
  | tree {root : Entries} {a : Application} : ofEntries root = .ok a -> Built a

theorem Built.nodup {a : Application} (h : a.Built) : a.names.Nodup := by
  induction h with
  | empty => exact List.nodup_nil
  | @add a name choice _ ih =>
      rw [names_addModule, ← List.concat_eq_append, List.nodup_concat]
      refine ⟨fun hmem => ?_, ih.filter _⟩
      simpa using (List.mem_filter.mp hmem).right
  | tree htree => exact nodup_names_of_ofEntries htree

end Application

/-!
## Creating one module

If one of the known entries cannot be created there is a first one. Where all modules are known
there is one provider for each.
-/

namespace Catalog

variable {σ V : Type} {catalog : Catalog σ V} {name : String} {choice : ModuleChoice}

/-- What a catalog makes of a choice for a module that it knows. -/
inductive Makes (catalog : Catalog σ V) (name : String) (choice : ModuleChoice) :
    Except ModuleError (Provider σ V) -> Prop
  | noProvider : catalog.factory? name choice.selector = none ->
      Makes catalog name choice (.error (.providerNotFound name choice.selector))
  | failed {factory : Factory σ V} {failure : Failure} :
      catalog.factory? name choice.selector = some factory ->
      factory choice.properties = .error failure ->
      Makes catalog name choice
        (.error (.moduleConfig (name ++ "." ++ choice.selector ++ ": " ++ failure.text)))
  | foreign {factory : Factory σ V} {p : Provider σ V} :
      catalog.factory? name choice.selector = some factory ->
      factory choice.properties = .ok p -> p.moduleName ≠ name ->
      Makes catalog name choice
        (.error (.moduleConfig ("provider " ++ p.name ++ " declares module '" ++ p.moduleName ++
          "' but is registered under '" ++ name ++ "'")))
  | made {factory : Factory σ V} {p : Provider σ V} :
      catalog.factory? name choice.selector = some factory ->
      factory choice.properties = .ok p -> p.moduleName = name ->
      Makes catalog name choice (.ok p)

theorem makes_create (h : catalog.hasModule name = true) :
    catalog.Makes name choice (catalog.create name choice.selector choice.properties) := by
  unfold create
  rw [h, Bool.not_true, if_neg Bool.false_ne_true]
  cases hfactory : catalog.factory? name choice.selector with
  | none => exact Makes.noProvider hfactory
  | some factory =>
      cases hmade : factory choice.properties with
      | error failure =>
          simp only [hmade]
          exact Makes.failed hfactory hmade
      | ok p =>
          simp only [hmade]
          split_ifs with hname
          · exact Makes.made hfactory hmade hname
          · exact Makes.foreign hfactory hmade hname

theorem Makes.unique {r r' : Except ModuleError (Provider σ V)} (h : catalog.Makes name choice r)
    (h' : catalog.Makes name choice r') : r = r' := by
  cases h <;> cases h' <;> simp_all

theorem Makes.create_eq {r : Except ModuleError (Provider σ V)}
    (h : catalog.Makes name choice r) (hknown : catalog.hasModule name = true) :
    catalog.create name choice.selector choice.properties = r :=
  (makes_create hknown).unique h

theorem Makes.moduleName {p : Provider σ V} (h : catalog.Makes name choice (.ok p)) :
    p.moduleName = name := by
  cases h with
  | made _ _ hname => exact hname

theorem Makes.ne_duplicateModule {e : ModuleError} (h : catalog.Makes name choice (.error e))
    (moduleName : String) : e ≠ .duplicateModule moduleName := by
  cases h <;> exact ModuleError.noConfusion

/-- The providers for the known ones of some entries, in order. -/
inductive Provides (catalog : Catalog σ V) :
    List (String × ModuleChoice) -> List (Provider σ V) -> Prop
  | nil : Provides catalog [] []
  | unknown {name : String} {choice : ModuleChoice} {entries : List (String × ModuleChoice)}
      {providers : List (Provider σ V)} : catalog.hasModule name = false ->
      Provides catalog entries providers -> Provides catalog ((name, choice) :: entries) providers
  | known {name : String} {choice : ModuleChoice} {entries : List (String × ModuleChoice)}
      {p : Provider σ V} {providers : List (Provider σ V)} : catalog.hasModule name = true ->
      catalog.Makes name choice (.ok p) -> Provides catalog entries providers ->
      Provides catalog ((name, choice) :: entries) (p :: providers)

def Creates (catalog : Catalog σ V) (entries : List (String × ModuleChoice)) : Prop :=
  forall name choice, (name, choice) ∈ entries -> catalog.hasModule name = true ->
    exists p, catalog.Makes name choice (.ok p)

def unknown (catalog : Catalog σ V) (entries : List (String × ModuleChoice)) : List String :=
  (entries.map Prod.fst).filter fun name => !catalog.hasModule name

variable {entries : List (String × ModuleChoice)} {providers : List (Provider σ V)}

theorem creates_nil (catalog : Catalog σ V) : catalog.Creates [] :=
  fun _ _ hmem => absurd hmem List.not_mem_nil

theorem creates_cons_iff : catalog.Creates ((name, choice) :: entries) <->
    (catalog.hasModule name = true -> exists p, catalog.Makes name choice (.ok p)) ∧
      catalog.Creates entries := by
  constructor
  · intro h
    exact ⟨h name choice List.mem_cons_self,
      fun n c hmem => h n c (List.mem_cons_of_mem _ hmem)⟩
  · rintro ⟨hfirst, hrest⟩ n c hmem
    rcases List.mem_cons.mp hmem with heq | hlater
    · cases heq
      exact hfirst
    · exact hrest n c hlater

theorem exists_provides (h : catalog.Creates entries) :
    exists providers, catalog.Provides entries providers := by
  induction entries with
  | nil => exact ⟨[], Provides.nil⟩
  | cons entry rest ih =>
      rcases creates_cons_iff.mp h with ⟨hfirst, hrest⟩
      rcases ih hrest with ⟨providers, hproviders⟩
      cases hknown : catalog.hasModule entry.1 with
      | false => exact ⟨providers, Provides.unknown hknown hproviders⟩
      | true =>
          rcases hfirst hknown with ⟨p, hp⟩
          exact ⟨p :: providers, Provides.known hknown hp hproviders⟩

theorem exists_first_uncreatable (h : ¬catalog.Creates entries) :
    exists before name choice after e, entries = before ++ (name, choice) :: after ∧
      catalog.Creates before ∧ catalog.hasModule name = true ∧
      catalog.Makes name choice (.error e) := by
  induction entries with
  | nil => exact absurd (creates_nil catalog) h
  | cons entry rest ih =>
      rcases entry with ⟨name, choice⟩
      rw [creates_cons_iff] at h
      by_cases hfirst :
          catalog.hasModule name = true -> exists p, catalog.Makes name choice (.ok p)
      · rcases ih fun hrest => h ⟨hfirst, hrest⟩ with
          ⟨before, n, c, after, e, rfl, hbefore, hknown, hfails⟩
        exact ⟨(name, choice) :: before, n, c, after, e, rfl,
          creates_cons_iff.mpr ⟨hfirst, hbefore⟩, hknown, hfails⟩
      · rcases Classical.not_imp.mp hfirst with ⟨hknown, hnone⟩
        have hmakes : catalog.Makes name choice _ := makes_create hknown
        cases hcreate : catalog.create name choice.selector choice.properties with
        | error e =>
            rw [hcreate] at hmakes
            exact ⟨[], name, choice, rest, e, rfl, creates_nil catalog, hknown, hmakes⟩
        | ok p =>
            rw [hcreate] at hmakes
            exact absurd ⟨p, hmakes⟩ hnone

theorem Provides.forall₂ (h : catalog.Provides entries providers)
    (hknown : catalog.unknown entries = []) :
    List.Forall₂ (fun entry p => catalog.Makes entry.1 entry.2 (.ok p)) entries providers := by
  induction h with
  | nil => exact List.Forall₂.nil
  | unknown hunknown _ _ => simp [Catalog.unknown, hunknown] at hknown
  | known hhas hmade _ ih =>
      refine List.Forall₂.cons hmade (ih ?_)
      simpa [Catalog.unknown, hhas] using hknown

end Catalog

/-!
## Loading one entry after the other

Entries that cause no error are loaded, and the rest is loaded on top of them.
-/

namespace Manager

open Catalog

variable {σ V : Type} {catalog : Catalog σ V} {m m' : Manager σ V} {world : σ}
  {entries before after : List (String × ModuleChoice)} {providers : List (Provider σ V)}

def loadEach (m : Manager σ V) (providers : List (Provider σ V)) : Manager σ V :=
  { m with
    modules := m.modules ++ providers.map fun p =>
      { provider := p, registry := .create p.moduleName } }

@[simp] theorem loadEach_nil (m : Manager σ V) : m.loadEach [] = m := by
  simp [loadEach]

theorem loadEach_cons (m : Manager σ V) (p : Provider σ V) (providers : List (Provider σ V)) :
    m.loadEach (p :: providers) = (m.load p).loadEach providers := by
  simp [loadEach, load]

theorem moduleNames_loadEach (m : Manager σ V) (providers : List (Provider σ V)) :
    (m.loadEach providers).moduleNames = m.moduleNames ++ providers.map Provider.moduleName := by
  simp [loadEach, moduleNames, LoadedModule.name, Registry.create, Function.comp_def]

theorem loadAll_unknown {name : String} {choice : ModuleChoice}
    (h : catalog.hasModule name = false) (m : Manager σ V)
    (rest : List (String × ModuleChoice)) :
    loadAll catalog m ((name, choice) :: rest) =
      ((loadAll catalog m rest).1, (loadAll catalog m rest).2.map (name :: ·)) := by
  rw [loadAll, h, if_neg Bool.false_ne_true]
  rcases loadAll catalog m rest with ⟨m', e | unknown⟩ <;> rfl

theorem loadAll_known {name : String} {choice : ModuleChoice} {p : Provider σ V}
    (h : catalog.hasModule name = true) (hmade : catalog.Makes name choice (.ok p))
    (hpreparing : m.preparing = true) (hnew : name ∉ m.moduleNames)
    (rest : List (String × ModuleChoice)) :
    loadAll catalog m ((name, choice) :: rest) = loadAll catalog (m.load p) rest := by
  rw [← hmade.moduleName] at hnew
  rw [loadAll, if_pos h, hmade.create_eq h]
  simp only [addProvider_eq_ok_iff.mpr ⟨hpreparing, hnew, rfl⟩]

theorem loadAll_append (h : catalog.Provides before providers) (hpreparing : m.preparing = true)
    (hnames : (m.moduleNames ++ before.map Prod.fst).Nodup) :
    loadAll catalog m (before ++ after) =
      ((loadAll catalog (m.loadEach providers) after).1,
        (loadAll catalog (m.loadEach providers) after).2.map (catalog.unknown before ++ ·)) := by
  induction h generalizing m with
  | nil =>
      rw [loadEach_nil, List.nil_append]
      rcases loadAll catalog m after with ⟨m', e | unknown⟩ <;> rfl
  | @unknown name choice entries providers hunknown _ ih =>
      have hnames' : (m.moduleNames ++ entries.map Prod.fst).Nodup :=
        hnames.sublist ((List.sublist_cons_self _ _).append_left _)
      rw [List.cons_append, loadAll_unknown hunknown, ih hpreparing hnames']
      rcases loadAll catalog (m.loadEach providers) after with ⟨m', e | unknown⟩
      · rfl
      · simp [Catalog.unknown, hunknown, Except.map]
  | @known name choice entries p providers hknown hmade _ ih =>
      have hnew : name ∉ m.moduleNames := by
        intro hmem
        exact (List.nodup_append.mp hnames).2.2 name hmem name List.mem_cons_self rfl
      have hnames' : ((m.load p).moduleNames ++ entries.map Prod.fst).Nodup := by
        rw [moduleNames_load, hmade.moduleName, List.append_assoc]
        exact hnames
      have hload : (m.load p).preparing = true := hpreparing
      rw [List.cons_append, loadAll_known hknown hmade hpreparing hnew, ih hload hnames',
        loadEach_cons]
      simp [Catalog.unknown, hknown]

/-!
## Answers of a startup
-/

theorem compute_ne_duplicateModule {modules : List ModuleNeeds} {e : ModuleError}
    (h : StartupOrder.compute modules = .error e) (name : String) :
    e ≠ .duplicateModule name := by
  unfold StartupOrder.compute at h
  split at h
  · cases h
    exact ModuleError.noConfusion
  · split at h
    · cases h
    · cases h
      exact ModuleError.noConfusion

theorem carriedOut_ne_duplicateModule {order : List Nat} {s last : Situation σ V}
    {plan done : List Hook} {e : ModuleError}
    (h : Situation.CarriedOut order s plan done last (.error e)) (name : String) :
    e ≠ .duplicateModule name := by
  cases h with
  | failed _ _ _ _ _ => exact ModuleError.noConfusion
  | barred _ _ hbarrier =>
      rcases Situation.barrier?_eq_some hbarrier with ⟨_, m, _, missing, _, _, _, _, _, rfl⟩
      exact ModuleError.noConfusion

theorem Booted.ne_duplicateModule {lived : Lived σ} (h : Booted m world m' lived)
    (hpreparing : m.preparing = true) (name : String) :
    lived.result ≠ .error (.duplicateModule name) := by
  intro hresult
  cases h with
  | refused hprepared => cases hpreparing.symm.trans hprepared
  | unsequenced _ hstuck =>
      exact compute_ne_duplicateModule hstuck name (Except.error.inj hresult)
  | halted _ _ hdone =>
      exact carriedOut_ne_duplicateModule hdone name (Except.error.inj hresult)
  | @launched _ _ _ _ result _ _ _ hdone =>
      have hduplicate : result = .error (.duplicateModule name) := hresult
      rw [hduplicate] at hdone
      exact carriedOut_ne_duplicateModule hdone name rfl

theorem Booted.preparing_eq_false {lived : Lived σ} (h : Booted m world m' lived)
    (hok : lived.result = .ok ()) : m'.preparing = false := by
  cases h with
  | refused _ => cases hok
  | unsequenced _ _ => cases hok
  | halted _ _ _ => cases hok
  | launched _ _ _ _ => rfl

theorem Sound.loadEach {called : List HookCall} (h : m.Sound called)
    (hpreparing : m.preparing = true)
    (hnames : (m.moduleNames ++ providers.map Provider.moduleName).Nodup) :
    (m.loadEach providers).Sound called := by
  induction providers generalizing m with
  | nil =>
      rw [loadEach_nil]
      exact h
  | cons p rest ih =>
      have hnew : p.moduleName ∉ m.moduleNames := by
        intro hmem
        exact (List.nodup_append.mp hnames).2.2 _ hmem _ List.mem_cons_self rfl
      rw [loadEach_cons]
      apply ih (h.load hpreparing hnew) hpreparing
      rw [moduleNames_load, List.append_assoc]
      exact hnames

theorem startupSequence_bootstrap {called : List HookCall} (h : m.Sound called)
    (hok : (m.bootstrap world).2.result = .ok ()) :
    (m.bootstrap world).1.startupSequence.Perm m.moduleNames := by
  have hbooted := booted_bootstrap h.names world
  have hsequence := (h.booted hbooted).sequence (hbooted.preparing_eq_false hok)
  have hnames : (m.bootstrap world).1.moduleNames = m.moduleNames :=
    Situation.names_eq_of_cast_eq hbooted.cast_eq
  rw [← hnames]
  exact startupSequence_perm hsequence

/-!
## An application and a catalog

The first known module that cannot be created decides. Unknown modules are reported together once
all known ones can be created.
-/

/-- The loading was given up: the world is as before, no hook is called, and the modules are not
there to be found. -/
structure GivenUp (outcome : Manager σ V × Lived σ) (world : σ) (e : ModuleError) : Prop where
  lived : outcome.2 = { world, calls := [], result := .error e }
  find : forall name, outcome.1.find name = .error .stillPreparing

theorem find_of_preparing (h : m.preparing = true) (name : String) :
    m.find name = .error .stillPreparing := by
  unfold find ModulesView.find
  exact if_pos h

def loaded (providers : List (Provider σ V)) : Manager σ V := create.loadEach providers

variable {a : Application}

theorem loadAll_create (hnames : a.names.Nodup) (hsplit : a.modules = before ++ after)
    (h : catalog.Provides before providers) :
    loadAll catalog create a.modules =
      ((loadAll catalog (loaded providers) after).1,
        (loadAll catalog (loaded providers) after).2.map (catalog.unknown before ++ ·)) := by
  rw [hsplit]
  apply loadAll_append h rfl
  rw [Application.names, hsplit, List.map_append] at hnames
  exact (List.nodup_append.mp hnames).1

/-- The first known module that cannot be created decides. -/
theorem init_of_uncreatable (hnames : a.names.Nodup) {name : String} {choice : ModuleChoice}
    {e : ModuleError} (hsplit : a.modules = before ++ (name, choice) :: after)
    (hknown : catalog.hasModule name = true) (hfails : catalog.Makes name choice (.error e))
    (hbefore : catalog.Creates before) (world : σ) :
    GivenUp (create.init a catalog world) world e := by
  rcases exists_provides hbefore with ⟨providers, hproviders⟩
  have hload : loadAll catalog create a.modules = (loaded providers, .error e) := by
    rw [loadAll_create hnames hsplit hproviders, loadAll, if_pos hknown,
      hfails.create_eq hknown]
    rfl
  unfold init
  rw [hload]
  exact ⟨rfl, find_of_preparing rfl⟩

theorem init_of_creates (hnames : a.names.Nodup) (h : catalog.Provides a.modules providers)
    (world : σ) :
    create.init a catalog world =
      match catalog.unknown a.modules with
      | [] => (loaded providers).bootstrap world
      | unknown =>
          (loaded providers,
            { world, calls := [],
              result := .error
                (.moduleNotFound ("[" ++ String.intercalate ", " unknown ++ "]")) }) := by
  have hload : loadAll catalog create a.modules =
      (loaded providers, .ok (catalog.unknown a.modules)) := by
    rw [loadAll_create hnames (List.append_nil _).symm h]
    simp [loadAll, Except.map]
  unfold init
  rw [hload]
  cases catalog.unknown a.modules <;> rfl

theorem init_of_unknown (hnames : a.names.Nodup) (h : catalog.Creates a.modules)
    (hunknown : catalog.unknown a.modules ≠ []) (world : σ) :
    GivenUp (create.init a catalog world) world (.moduleNotFound
      ("[" ++ String.intercalate ", " (catalog.unknown a.modules) ++ "]")) := by
  rcases exists_provides h with ⟨providers, hproviders⟩
  rw [init_of_creates hnames hproviders]
  cases hnames' : catalog.unknown a.modules with
  | nil => exact absurd hnames' hunknown
  | cons name rest => exact ⟨rfl, find_of_preparing rfl⟩

theorem names_of_forall₂ (h : List.Forall₂
    (fun entry p => catalog.Makes entry.1 entry.2 (.ok p)) entries providers) :
    providers.map Provider.moduleName = entries.map Prod.fst := by
  induction h with
  | nil => rfl
  | cons hmade _ ih => rw [List.map_cons, List.map_cons, ih, hmade.moduleName]

theorem moduleNames_loaded (h : List.Forall₂
    (fun entry p => catalog.Makes entry.1 entry.2 (.ok p)) a.modules providers) :
    (loaded providers).moduleNames = a.names := by
  rw [loaded, moduleNames_loadEach, names_of_forall₂ h]
  rfl

theorem sound_loaded (hnames : (loaded providers).moduleNames.Nodup) :
    (loaded providers).Sound [] := by
  rw [loaded, moduleNames_loadEach] at hnames
  exact sound_create.loadEach rfl hnames

/-- What becomes of an application that a new manager loads and starts. A known module that cannot
be created ends it with its error, the first one if there are several. Otherwise unknown modules end
it, each named once and in order. In both cases no hook is called. Otherwise it goes on as the
startup of one provider for each module. No module is ever a duplicate. -/
theorem outcome_of_init (hbuilt : a.Built) (catalog : Catalog σ V) (world : σ) :
    (¬catalog.Creates a.modules -> exists before name choice after e,
      a.modules = before ++ (name, choice) :: after ∧ catalog.Creates before ∧
        catalog.hasModule name = true ∧ catalog.Makes name choice (.error e) ∧
        GivenUp (create.init a catalog world) world e) ∧
    (catalog.Creates a.modules -> catalog.unknown a.modules ≠ [] ->
      (catalog.unknown a.modules).Nodup ∧
        GivenUp (create.init a catalog world) world (.moduleNotFound
          ("[" ++ String.intercalate ", " (catalog.unknown a.modules) ++ "]"))) ∧
    (catalog.Creates a.modules -> catalog.unknown a.modules = [] -> exists providers,
      List.Forall₂ (fun entry p => catalog.Makes entry.1 entry.2 (.ok p)) a.modules providers ∧
        create.init a catalog world = (loaded providers).bootstrap world ∧
        (loaded providers).moduleNames = a.names ∧
        ((create.init a catalog world).2.result = .ok () ->
          (create.init a catalog world).1.startupSequence.Perm a.names)) ∧
    forall name, (create.init a catalog world).2.result ≠ .error (.duplicateModule name) := by
  have hnames := hbuilt.nodup
  have huncreatable : ¬catalog.Creates a.modules -> exists before name choice after e,
      a.modules = before ++ (name, choice) :: after ∧ catalog.Creates before ∧
        catalog.hasModule name = true ∧ catalog.Makes name choice (.error e) ∧
        GivenUp (create.init a catalog world) world e := by
    intro h
    rcases exists_first_uncreatable h with
      ⟨before, name, choice, after, e, hsplit, hbefore, hknown, hfails⟩
    exact ⟨before, name, choice, after, e, hsplit, hbefore, hknown, hfails,
      init_of_uncreatable hnames hsplit hknown hfails hbefore world⟩
  have hloads : catalog.Creates a.modules -> catalog.unknown a.modules = [] ->
      exists providers,
        List.Forall₂ (fun entry p => catalog.Makes entry.1 entry.2 (.ok p)) a.modules providers ∧
        create.init a catalog world = (loaded providers).bootstrap world := by
    intro h hknown
    rcases exists_provides h with ⟨providers, hproviders⟩
    refine ⟨providers, hproviders.forall₂ hknown, ?_⟩
    rw [init_of_creates hnames hproviders, hknown]
  refine ⟨huncreatable, ?_, ?_, ?_⟩
  · intro h hunknown
    exact ⟨hnames.filter _, init_of_unknown hnames h hunknown world⟩
  · intro h hknown
    rcases hloads h hknown with ⟨providers, hproviders, hinit⟩
    have hsame := moduleNames_loaded hproviders
    refine ⟨providers, hproviders, hinit, hsame, ?_⟩
    rw [hinit, ← hsame]
    exact startupSequence_bootstrap (sound_loaded (hsame.symm ▸ hnames))
  · intro name
    by_cases h : catalog.Creates a.modules
    · by_cases hknown : catalog.unknown a.modules = []
      · rcases hloads h hknown with ⟨providers, hproviders, hinit⟩
        have hdistinct : (loaded providers).moduleNames.Nodup :=
          (moduleNames_loaded hproviders).symm ▸ hnames
        rw [hinit]
        exact (booted_bootstrap hdistinct world).ne_duplicateModule rfl name
      · rw [(init_of_unknown hnames h hknown world).lived]
        exact fun hresult => ModuleError.noConfusion (Except.error.inj hresult)
    · rcases huncreatable h with ⟨_, _, _, _, e, _, _, _, hfails, hgiven⟩
      rw [hgiven.lived]
      exact fun hresult => hfails.ne_duplicateModule name (Except.error.inj hresult)

def memoryShelf : Catalog Unit Unit :=
  Catalog.empty.register "storage" "memory" fun _ =>
    .ok (plain "storage" [] (.ok ())).provider

/-- An alarm that nobody knows, and after it a storage on tape. -/
def alarmAndTape : Application :=
  (Application.empty.addModule "alarm" ⟨"bell", .nil⟩).addModule "storage" ⟨"tape", .nil⟩

/-- The missing provider is reported, and not the unknown alarm before it. -/
theorem outcome_of_init_alarmAndTape :
    alarmAndTape.Built ∧ GivenUp (create.init alarmAndTape memoryShelf ()) ()
      (.providerNotFound "storage" "tape") := by
  have hbuilt : alarmAndTape.Built := .add _ _ (.add _ _ .empty)
  have hmodules : alarmAndTape.modules = [("alarm", ⟨"bell", .nil⟩), ("storage", ⟨"tape", .nil⟩)] :=
    rfl
  have hfails : memoryShelf.Makes "storage" ⟨"tape", .nil⟩
      (.error (.providerNotFound "storage" "tape")) := .noProvider rfl
  have hcreates : ¬memoryShelf.Creates alarmAndTape.modules := by
    intro h
    rcases h "storage" ⟨"tape", .nil⟩ (by simp [hmodules]) rfl with ⟨p, hp⟩
    cases hfails.unique hp
  rcases (outcome_of_init hbuilt memoryShelf ()).1 hcreates with
    ⟨before, name, choice, after, e, hsplit, _, hknown, hfails', hgiven⟩
  have hmem : (name, choice) ∈ alarmAndTape.modules := by simp [hsplit]
  rw [hmodules, List.mem_cons, List.mem_singleton] at hmem
  rcases hmem with halarm | hstorage
  · cases halarm
    cases hknown
  · cases hstorage
    cases hfails.unique hfails'
    exact ⟨hbuilt, hgiven⟩

end Manager
end ClusterNode
