import ClusterNode.Startup.Application
import ClusterNode.Startup.Manager

/-!
# The catalog of providers

The providers that can be selected, by module and name. A factory builds a provider from its
properties. A manager loads the modules of an application through the catalog: the first module that
cannot be created ends the loading, modules that the catalog does not know are reported together.
-/

namespace ClusterNode

abbrev Factory (σ V : Type) := Value -> Except Failure (Provider σ V)

structure Catalog (σ V : Type) where
  factories : List ((String × String) × Factory σ V)

namespace Catalog

variable {σ V : Type}

def empty : Catalog σ V := { factories := [] }

/-- A factory replaces the one of the same module and name. -/
def register (c : Catalog σ V) (moduleName provider : String) (f : Factory σ V) : Catalog σ V :=
  { factories :=
      (c.factories.filter fun (key, _) => key != (moduleName, provider)) ++
        [((moduleName, provider), f)] }

def hasModule (c : Catalog σ V) (moduleName : String) : Bool :=
  c.factories.any fun (key, _) => key.1 == moduleName

def providers (c : Catalog σ V) (moduleName : String) : List String :=
  (c.factories.filterMap fun (key, _) =>
    if key.1 == moduleName then some key.2 else none).mergeSort fun a b => a ≤ b

def factory? (c : Catalog σ V) (moduleName provider : String) : Option (Factory σ V) :=
  (c.factories.find? fun (key, _) => key == (moduleName, provider)).map Prod.snd

/-- Builds a provider, which has to belong to the module. -/
def create (c : Catalog σ V) (moduleName provider : String) (properties : Value) :
    Except ModuleError (Provider σ V) :=
  if !c.hasModule moduleName then .error (.moduleNotFound ("[" ++ moduleName ++ "]"))
  else
    match c.factory? moduleName provider with
    | none => .error (.providerNotFound moduleName provider)
    | some factory =>
        match factory properties with
        | .error failure =>
            .error (.moduleConfig (moduleName ++ "." ++ provider ++ ": " ++ failure.text))
        | .ok p =>
            if p.moduleName = moduleName then .ok p
            else
              .error (.moduleConfig ("provider " ++ p.name ++ " declares module '" ++
                p.moduleName ++ "' but is registered under '" ++ moduleName ++ "'"))

end Catalog

namespace Manager

variable {σ V : Type}

/-- Creates and loads modules in turn. The unknown ones are left out and returned. -/
def loadAll (catalog : Catalog σ V) (m : Manager σ V) :
    List (String × ModuleChoice) -> Manager σ V × Except ModuleError (List String)
  | [] => (m, .ok [])
  | (name, choice) :: rest =>
      if catalog.hasModule name then
        match catalog.create name choice.selector choice.properties with
        | .error e => (m, .error e)
        | .ok p =>
            match m.addProvider p with
            | .error e => (m, .error e)
            | .ok m => loadAll catalog m rest
      else
        match loadAll catalog m rest with
        | (m, .ok unknown) => (m, .ok (name :: unknown))
        | (m, .error e) => (m, .error e)

def init (m : Manager σ V) (application : Application) (catalog : Catalog σ V) (world : σ) :
    Manager σ V × Lived σ :=
  match loadAll catalog m application.modules with
  | (m, .error e) => (m, { world, calls := [], result := .error e })
  | (m, .ok []) => m.bootstrap world
  | (m, .ok unknown) =>
      (m, { world, calls := [],
            result := .error (.moduleNotFound ("[" ++ String.intercalate ", " unknown ++ "]")) })

end Manager
end ClusterNode
