/-!
# Errors of the startup

Why a node does not come up, with the one wording of each cause. Every error here is final: the node
does not start.
-/

namespace ClusterNode

/-- A service by the name of its type. -/
structure Capability where
  typeName : String
  deriving DecidableEq, Repr

inductive Phase
  | prepare
  | start
  | afterAllStarted
  | stop
  deriving DecidableEq, Repr

namespace Phase

def name : Phase -> String
  | prepare => "prepare"
  | start => "start"
  | afterAllStarted => "after_all_started"
  | stop => "stop"

end Phase

/-- The texts of an error and of what caused it, the outermost first. -/
structure Failure where
  text : String
  reasons : List String
  deriving DecidableEq, Repr

namespace Failure

def ofText (text : String) : Failure := { text, reasons := [] }

def causes (f : Failure) : List String := f.text :: f.reasons

/-- Puts a text around a failure. -/
def within (context : String) (f : Failure) : Failure := { text := context, reasons := f.causes }

def withinAll (contexts : List String) (f : Failure) : Failure :=
  contexts.foldl (fun f context => f.within context) f

end Failure

structure StuckProvider where
  moduleName : String
  provider : String
  requires : List String
  deriving DecidableEq, Repr

inductive ModuleError
  | moduleNotFound (what : String)
  | requiredModuleNotFound (required requester : String)
  | providerNotFound (moduleName provider : String)
  | duplicateModule (moduleName : String)
  | duplicateService (moduleName : String) (capability : Capability)
  | registryFrozen (moduleName : String)
  | serviceNotProvided (moduleName : String) (capability : Capability)
  | cycleDependency (stuck blocked : List StuckProvider)
  | stillPreparing
  | moduleConfig (reason : String)
  | moduleStart (moduleName provider : String) (phase : Phase) (failure : Failure)
  deriving DecidableEq, Repr

namespace StuckProvider

def toText (s : StuckProvider) : String :=
  s.moduleName ++ "[provider=" ++ s.provider ++ "] requires [" ++
    String.intercalate ", " s.requires ++ "]"

def linesText (providers : List StuckProvider) : String :=
  String.intercalate "\n" (providers.map toText)

def blockedText (blocked : List StuckProvider) : String :=
  if blocked.isEmpty then "" else "\nblocked by the cycle:\n" ++ linesText blocked

end StuckProvider

namespace ModuleError

def message : ModuleError -> String
  | moduleNotFound what => what ++ " missing."
  | requiredModuleNotFound required requester =>
      required ++ " module is required by " ++ requester ++ ", but not found."
  | providerNotFound moduleName provider =>
      "no provider named '" ++ provider ++ "' for module '" ++ moduleName ++ "'"
  | duplicateModule moduleName => "duplicate module definition: " ++ moduleName
  | duplicateService moduleName capability =>
      "service " ++ capability.typeName ++ " already registered in module '" ++ moduleName ++ "'"
  | registryFrozen moduleName =>
      "registry of module '" ++ moduleName ++
        "' is frozen, services can only be registered during prepare"
  | serviceNotProvided moduleName capability =>
      "service " ++ capability.typeName ++ " not provided by module '" ++ moduleName ++ "'"
  | cycleDependency stuck blocked =>
      "exist cycle module dependencies in\n" ++ StuckProvider.linesText stuck ++
        StuckProvider.blockedText blocked
  | stillPreparing => "still in preparing stage"
  | moduleConfig reason => "module configuration error: " ++ reason
  | moduleStart moduleName provider phase failure =>
      phase.name ++ " failed for provider " ++ provider ++ " in module " ++ moduleName ++ ": " ++
        failure.text

def cycleModules : ModuleError -> List String
  | cycleDependency stuck _ => stuck.map StuckProvider.moduleName
  | _ => []

def toFailure (e : ModuleError) : Failure :=
  match e with
  | moduleStart _ _ _ failure => { text := e.message, reasons := failure.causes }
  | _ => Failure.ofText e.message

end ModuleError
end ClusterNode
