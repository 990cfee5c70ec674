import ClusterNode.Startup.Order
import ClusterNode.Startup.Provider

/-!
# Loading and starting modules

A manager holds the loaded modules and drives them through their life: all prepare, then all start,
then all are told that everything has started, each time in startup order; at the end they stop in
the opposite order. A failing hook ends the startup. Every hook that is called is written down.
-/

namespace ClusterNode

structure LoadedModule (σ V : Type) where
  provider : Provider σ V
  registry : Registry V

structure HookCall where
  phase : Phase
  moduleName : String
  deriving DecidableEq, Repr

structure Manager (σ V : Type) where
  modules : List (LoadedModule σ V)
  sequence : List Nat
  preparing : Bool

structure Lived (σ : Type) where
  world : σ
  calls : List HookCall
  result : Except ModuleError Unit

namespace LoadedModule

variable {σ V : Type}

def name (m : LoadedModule σ V) : String := m.registry.owner

def needs (m : LoadedModule σ V) : ModuleNeeds :=
  { name := m.name, provider := m.provider.name, requires := m.provider.requires }

def phaseError (m : LoadedModule σ V) (phase : Phase) (failure : Failure) : ModuleError :=
  .moduleStart m.name m.provider.name phase failure

def call (m : LoadedModule σ V) (phase : Phase) : HookCall := { phase, moduleName := m.name }

end LoadedModule

namespace Lived

variable {σ : Type}

def andThen (lived : Lived σ) (next : σ -> Lived σ) : Lived σ :=
  match lived.result with
  | .error _ => lived
  | .ok () =>
      let more := next lived.world
      { more with calls := lived.calls ++ more.calls }

end Lived

namespace Manager

variable {σ V : Type}

def create : Manager σ V := { modules := [], sequence := [], preparing := true }

def has (m : Manager σ V) (moduleName : String) : Bool :=
  m.modules.any fun loaded => loaded.name == moduleName

def moduleNames (m : Manager σ V) : List String := m.modules.map LoadedModule.name

def started (m : Manager σ V) : List (LoadedModule σ V) :=
  m.sequence.filterMap fun n => m.modules[n]?

def startupSequence (m : Manager σ V) : List String := m.started.map LoadedModule.name

def isBootstrapped (m : Manager σ V) : Bool := !m.preparing

def view (m : Manager σ V) : ModulesView V :=
  { registries := m.modules.map LoadedModule.registry
    sequence := m.startupSequence
    preparing := m.preparing }

def find (m : Manager σ V) (moduleName : String) : Except ModuleError (Registry V) :=
  m.view.find moduleName

def service (m : Manager σ V) (moduleName : String) (c : Capability) : Except ModuleError V :=
  m.view.service moduleName c

/-- Loads a provider; its module must be new, and no module may have started. -/
def addProvider (m : Manager σ V) (p : Provider σ V) : Except ModuleError (Manager σ V) :=
  if !m.preparing then
    .error (.moduleConfig ("cannot load module '" ++ p.moduleName ++ "' after bootstrap"))
  else if m.has p.moduleName then .error (.duplicateModule p.moduleName)
  else
    .ok { m with modules := m.modules ++ [{ provider := p, registry := .create p.moduleName }] }

/-!
## Phases
-/

/-- Prepares the modules in order. A registry is frozen once its module has prepared. -/
def prepareAll : List Nat -> List (LoadedModule σ V) -> σ -> List (LoadedModule σ V) × Lived σ
  | [], modules, world => (modules, { world, calls := [], result := .ok () })
  | n :: rest, modules, world =>
      match modules[n]? with
      | none => prepareAll rest modules world
      | some m =>
          let (registry, world, outcome) := (m.provider.prepare m.registry world).run m.registry
          match outcome with
          | .error failure =>
              (modules.set n { m with registry },
                { world, calls := [m.call .prepare],
                  result := .error (m.phaseError .prepare failure) })
          | .ok () =>
              let (modules, lived) :=
                prepareAll rest (modules.set n { m with registry := registry.freeze }) world
              (modules, { lived with calls := m.call .prepare :: lived.calls })

/-- Starts the modules in order. A module that has not registered all it promised is not started. -/
def startAll (view : ModulesView V) : List (LoadedModule σ V) -> σ -> Lived σ
  | [], world => { world, calls := [], result := .ok () }
  | m :: rest, world =>
      match m.registry.requireAll m.provider.promises with
      | .error e => { world, calls := [], result := .error e }
      | .ok () =>
          match m.provider.start view world with
          | (world, .error failure) =>
              { world, calls := [m.call .start], result := .error (m.phaseError .start failure) }
          | (world, .ok ()) =>
              let lived := startAll view rest world
              { lived with calls := m.call .start :: lived.calls }

def notifyAll (view : ModulesView V) : List (LoadedModule σ V) -> σ -> Lived σ
  | [], world => { world, calls := [], result := .ok () }
  | m :: rest, world =>
      match m.provider.afterAllStarted view world with
      | (world, .error failure) =>
          { world, calls := [m.call .afterAllStarted],
            result := .error (m.phaseError .afterAllStarted failure) }
      | (world, .ok ()) =>
          let lived := notifyAll view rest world
          { lived with calls := m.call .afterAllStarted :: lived.calls }

/-- Stops the modules in order. A failing stop leaves a warning and stops nothing else. -/
def stopAll : List (LoadedModule σ V) -> σ -> σ × List HookCall × List ModuleError
  | [], world => (world, [], [])
  | m :: rest, world =>
      let (world, outcome) := m.provider.stop world
      let (world, calls, warnings) := stopAll rest world
      (world, m.call .stop :: calls,
        match outcome with
        | .ok () => warnings
        | .error failure => m.phaseError .stop failure :: warnings)

/-!
## The life of the modules
-/

def bootstrap (m : Manager σ V) (world : σ) : Manager σ V × Lived σ :=
  if !m.preparing then
    (m, { world, calls := [], result := .error (.moduleConfig "modules already bootstrapped") })
  else
    match StartupOrder.compute (m.modules.map LoadedModule.needs) with
    | .error e => (m, { world, calls := [], result := .error e })
    | .ok sequence =>
        let (modules, prepared) := prepareAll sequence m.modules world
        match prepared.result with
        | .error _ => ({ m with modules }, prepared)
        | .ok () =>
            let m : Manager σ V := { modules, sequence, preparing := false }
            let startedUp := startAll m.view m.started prepared.world
            let notified := startedUp.andThen (notifyAll m.view m.started)
            (m, { notified with calls := prepared.calls ++ notified.calls })

def shutdown (m : Manager σ V) (world : σ) : σ × List HookCall × List ModuleError :=
  stopAll m.started.reverse world

def debugText (m : Manager σ V) : String :=
  "ModuleManager \x7b modules: " ++ Text.bracketed (m.moduleNames.map Text.quoted) ++
    ", sequence: " ++ Text.bracketed (m.startupSequence.map Text.quoted) ++
    ", in_prepare_stage: " ++ toString m.preparing ++ " \x7d"

/-!
## Order of the stops
-/

theorem calls_stopAll (modules : List (LoadedModule σ V)) (world : σ) :
    (stopAll modules world).2.1 = modules.map fun m => m.call .stop := by
  induction modules generalizing world with
  | nil => rfl
  | cons m rest ih => simp [stopAll, ih]

end Manager
end ClusterNode
