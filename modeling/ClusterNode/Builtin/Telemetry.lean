import ClusterNode.Builtin.Service
import ClusterNode.Settings.Scrape

/-!
# The telemetry module

Offers the exporter of the metrics. The scrape endpoint is read while the module prepares and opened
when it starts; without telemetry, metrics go nowhere.
-/

namespace ClusterNode
namespace TelemetryModule

variable {β : Type}

def moduleName : String := "telemetry"

def offer (e : MetricsExporter) (node : Node β) : Preparation (Node β) Service :=
  Preparation.registerAll node (.ended node (.ok ())) (Service.offered [.exporter e])

def none : BuiltinProvider β :=
  { name := ExporterKind.none.name, moduleName, requires := [], promises := [.exporter]
    prepare := fun _ => offer { kind := .none, listen := .none }
    start := fun _ node => (node, .ok ())
    afterAllStarted := fun _ node => (node, .ok ())
    stop := fun node => (node, .ok ()) }

def preparePrometheus (settings : ScrapeSettings) (node : Node β) :
    Preparation (Node β) Service :=
  match settings.listen with
  | .error f => .ended node (.error f)
  | .ok endpoint => offer { kind := .prometheus, listen := some endpoint } node

def notInstalled (reason : String) : Failure :=
  (Failure.ofText ("failed to create HTTP listener: " ++ reason)).within
    "failed to install the prometheus exporter"

def openEndpoint (s : Surroundings β) (settings : ScrapeSettings) : Except Failure Unit :=
  match settings.listen with
  | .error f => .error f
  | .ok endpoint =>
      match s.listen endpoint with
      | .ok () => .ok ()
      | .error reason => .error (notInstalled reason)

def prometheus (s : Surroundings β) (settings : ScrapeSettings) : BuiltinProvider β :=
  { name := ExporterKind.prometheus.name, moduleName, requires := [], promises := [.exporter]
    prepare := fun _ => preparePrometheus settings
    start := fun _ node => (node, openEndpoint s settings)
    afterAllStarted := fun _ node => (node, .ok ())
    stop := fun node => (node, .ok ()) }

end TelemetryModule
end ClusterNode
