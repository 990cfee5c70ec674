import ClusterNode.Builtin.Core
import ClusterNode.Settings.Members
import ClusterNode.Startup.Catalog

/-!
# The catalog of built-in providers

Telemetry is exported by Prometheus or not at all, the cluster is standalone or static, and the core
module has one provider. Properties that are no settings are refused; a provider without settings
takes any properties.
-/

namespace ClusterNode
namespace Builtin

abbrev BuiltinFactory := Factory (Node Membership) Service

/-- Builds a provider from the settings that the properties hold. -/
def configured {α : Type} (settings? : Value -> Except ConversionError α)
    (build : α -> BuiltinProvider Membership) : BuiltinFactory :=
  fun properties =>
    match settings? properties with
    | .ok settings => .ok (build settings)
    | .error e => .error (Failure.ofText e.message)

def unconfigured (p : BuiltinProvider Membership) : BuiltinFactory := fun _ => .ok p

def telemetryFactories (s : Surroundings Membership) : List (String × BuiltinFactory) :=
  [("prometheus", configured ScrapeSettings.ofProperties (TelemetryModule.prometheus s)),
    ("none", unconfigured TelemetryModule.none)]

def clusterFactories (s : Surroundings Membership) : List (String × BuiltinFactory) :=
  [("standalone", unconfigured ClusterModule.standalone),
    ("static", configured FixedMembers.ofProperties (ClusterModule.fixed s))]

def coreFactories (s : Surroundings Membership) : List (String × BuiltinFactory) :=
  [("default", configured CoreSettings.ofProperties (CoreModule.provider s))]

def registerAll (moduleName : String) (factories : List (String × BuiltinFactory))
    (c : Catalog (Node Membership) Service) : Catalog (Node Membership) Service :=
  factories.foldl (fun c (provider, f) => c.register moduleName provider f) c

def catalog (s : Surroundings Membership) : Catalog (Node Membership) Service :=
  Catalog.empty
    |> registerAll TelemetryModule.moduleName (telemetryFactories s)
    |> registerAll ClusterModule.moduleName (clusterFactories s)
    |> registerAll CoreModule.moduleName (coreFactories s)

end Builtin
end ClusterNode
