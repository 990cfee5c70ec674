import ClusterNode.Config.Conversion
import ClusterNode.Net.Endpoint
import ClusterNode.Startup.Error

/-!
# Settings of the scrape endpoint

Where the exporter of metrics listens. The host has to be an IP address, since it is not looked up.
-/

namespace ClusterNode

structure ScrapeSettings where
  host : String := "0.0.0.0"
  port : UInt16 := 1234
  deriving DecidableEq, Repr

namespace ScrapeSettings

def default : ScrapeSettings := { }

def keys : List String := ["host", "port"]

def ofFound (find : String -> Option Value.Property) : Except ConversionError ScrapeSettings := do
  let host ← Value.Property.read default.host Value.toText (find "host")
  let port ← Value.Property.read default.port Value.toPort (find "port")
  return { host, port }

def ofProperties (properties : Value) : Except ConversionError ScrapeSettings :=
  properties.readRecord "PrometheusSettings" keys default ofFound

def listenText (s : ScrapeSettings) : String := s.host ++ ":" ++ toString s.port.toNat

def listen (s : ScrapeSettings) : Except Failure Net.Endpoint :=
  match Net.Endpoint.ofText? s.listenText with
  | some endpoint => .ok endpoint
  | none =>
      .error ((Failure.ofText "invalid socket address syntax").within
        ("invalid prometheus listen address " ++ s.listenText))

end ScrapeSettings
end ClusterNode
