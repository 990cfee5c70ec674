import ClusterNode.Startup.Catalog

/-!
# Scripted providers

Providers whose hooks follow a script: they write down that they were called, register services,
read services of other modules, and fail where the script says so, always or a number of times.
-/

namespace ClusterNode
namespace Simulation

inductive FailPoint
  | prepare
  | prepareLate
  | start
  | after
  | stop
  deriving DecidableEq, Repr

structure NamedService where
  label : String
  capability : Capability

structure ProviderScript where
  moduleName : String
  name : String
  requires : List String
  promises : List Capability
  registers : List (Capability × Int)
  failures : List (FailPoint × String)
  failTimes : Option Nat
  contexts : List String
  startReads : List (String × NamedService)
  afterReads : List (String × NamedService)
  silent : Bool

structure ProviderWorld where
  events : List String
  failed : List String

namespace ProviderWorld

def empty : ProviderWorld := { events := [], failed := [] }

def record (w : ProviderWorld) (event : String) : ProviderWorld :=
  { w with events := w.events ++ [event] }

def takeEvents (w : ProviderWorld) : List String × ProviderWorld :=
  (w.events, { w with events := [] })

end ProviderWorld

namespace ProviderScript

/-- A script that fails no more after a number of times. -/
def isExhausted (s : ProviderScript) (w : ProviderWorld) : Bool :=
  match s.failTimes with
  | none => false
  | some limit => limit ≤ w.failed.count s.moduleName

def failAt (s : ProviderScript) (point : FailPoint) (w : ProviderWorld) :
    ProviderWorld × Option Failure :=
  match s.failures.find? fun (p, _) => p == point with
  | none => (w, none)
  | some (_, text) =>
      if s.isExhausted w then (w, none)
      else
        ({ w with failed := s.moduleName :: w.failed },
          some ((Failure.ofText text).withinAll s.contexts))

def outcome : Option Failure -> Except Failure Unit
  | none => .ok ()
  | some f => .error f

def prepare (s : ProviderScript) (w : ProviderWorld) : Preparation ProviderWorld Int :=
  match s.failAt .prepare (w.record ("prepare:" ++ s.moduleName)) with
  | (w, some f) => .ended w (.error f)
  | (w, none) =>
      let (late, failure) := s.failAt .prepareLate w
      Preparation.registerAll w (.ended late (outcome failure)) s.registers

def read (view : ModulesView Int) (w : ProviderWorld) :
    List (String × NamedService) -> ProviderWorld × Except Failure Unit
  | [] => (w, .ok ())
  | (moduleName, service) :: rest =>
      match view.service moduleName service.capability with
      | .error e => (w, .error e.toFailure)
      | .ok v =>
          let event := "read:" ++ moduleName ++ "." ++ service.label ++ "=" ++ toString v
          read view (w.record event) rest

def begin (s : ProviderScript) (word : String) (point : FailPoint)
    (reads : List (String × NamedService)) (view : ModulesView Int) (w : ProviderWorld) :
    ProviderWorld × Except Failure Unit :=
  match s.failAt point (w.record (word ++ ":" ++ s.moduleName)) with
  | (w, some f) => (w, .error f)
  | (w, none) => read view w reads

def stop (s : ProviderScript) (w : ProviderWorld) : ProviderWorld × Except Failure Unit :=
  let (w, failure) := s.failAt .stop (w.record ("stop:" ++ s.moduleName))
  (w, outcome failure)

def silentProvider (moduleName : String) : Provider ProviderWorld Int :=
  { name := "minimal", moduleName, requires := [], promises := []
    prepare := fun _ w => .ended w (.ok ())
    start := fun _ w => (w, .ok ())
    afterAllStarted := fun _ w => (w, .ok ())
    stop := fun w => (w, .ok ()) }

def toProvider (s : ProviderScript) : Provider ProviderWorld Int :=
  if s.silent then silentProvider s.moduleName
  else
    { name := s.name, moduleName := s.moduleName, requires := s.requires, promises := s.promises
      prepare := fun _ => s.prepare
      start := s.begin "start" .start s.startReads
      afterAllStarted := s.begin "after" .after s.afterReads
      stop := s.stop }

end ProviderScript
end Simulation
end ClusterNode
