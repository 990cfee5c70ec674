import ClusterNode.Startup.Registry

/-!
# Providers

The implementation behind a module, driven through its hooks. Hooks act on a world of their own.
While it prepares, a provider may only register services, one after the other, and sees each answer;
from its start on it may look up the services of all modules.
-/

namespace ClusterNode

/-- What a prepare hook does: it registers a service and goes on with the answer, or it is over. -/
inductive Preparation (σ V : Type)
  | ended (world : σ) (outcome : Except Failure Unit)
  | register (capability : Capability) (value : V)
      (next : Except ModuleError Unit -> Preparation σ V)

/-- What hooks see of the loaded modules. -/
structure ModulesView (V : Type) where
  registries : List (Registry V)
  sequence : List String
  preparing : Bool

structure Provider (σ V : Type) where
  name : String
  moduleName : String
  requires : List String
  promises : List Capability
  prepare : Registry V -> σ -> Preparation σ V
  start : ModulesView V -> σ -> σ × Except Failure Unit
  afterAllStarted : ModulesView V -> σ -> σ × Except Failure Unit
  stop : σ -> σ × Except Failure Unit

namespace ModulesView

variable {V : Type}

def find (view : ModulesView V) (moduleName : String) : Except ModuleError (Registry V) :=
  if view.preparing then .error .stillPreparing
  else
    match view.registries.find? fun r => r.owner == moduleName with
    | some r => .ok r
    | none => .error (.moduleNotFound moduleName)

def service (view : ModulesView V) (moduleName : String) (c : Capability) : Except ModuleError V :=
  match view.find moduleName with
  | .ok r => r.get c
  | .error e => .error e

end ModulesView

namespace Preparation

variable {σ V : Type}

/-- The registry and the world when a preparation is over. -/
def run : Preparation σ V -> Registry V -> Registry V × σ × Except Failure Unit
  | ended world outcome, r => (r, world, outcome)
  | register c v next, r =>
      match r.register c v with
      | .ok r' => (next (.ok ())).run r'
      | .error e => (next (.error e)).run r

def registerAll (world : σ) (finish : Preparation σ V) : List (Capability × V) -> Preparation σ V
  | [] => finish
  | (c, v) :: rest =>
      .register c v fun
        | .ok () => registerAll world finish rest
        | .error e => .ended world (.error e.toFailure)

/-!
## What a preparation keeps
-/

theorem owner_run (p : Preparation σ V) (r : Registry V) : (p.run r).1.owner = r.owner := by
  induction p generalizing r with
  | ended world outcome => rfl
  | register c v next ih =>
      rw [run]
      split
      · rename_i r' h
        rw [ih, Registry.owner_register h]
      · rw [ih]

end Preparation
end ClusterNode
