import ClusterNode.Address
import ClusterNode.Config.Conversion
import ClusterNode.Text.Blank
import ClusterNode.Transport

/-!
# Settings of the core module

Under which address a node appears in the cluster, which part it takes in it, and how it keeps in
touch with the others. Every setting has a default.
-/

namespace ClusterNode

/-- Which pipelines a node runs. A receiver is never a target of others. -/
inductive Role
  | mixed
  | receiver
  | aggregator
  deriving DecidableEq, Repr

namespace Role

def name : Role -> String
  | mixed => "Mixed"
  | receiver => "Receiver"
  | aggregator => "Aggregator"

def all : List Role := [mixed, receiver, aggregator]

def registersSelf : Role -> Bool
  | mixed => true
  | receiver => false
  | aggregator => true

def ofValue (v : Value) : Except ConversionError Role :=
  v.toVariant "Role" (all.map fun role => (role.name, role))

end Role

structure CoreSettings where
  host : String := ""
  port : UInt16 := 11800
  role : Role := .mixed
  internalHost : String := ""
  internalPort : UInt16 := 0
  remoteTimeoutSecs : Nat := 20
  connectTimeoutMs : Nat := 3000
  refreshIntervalSecs : Nat := 5
  peerSelector : String := "hashcode"
  deriving DecidableEq, Repr

namespace CoreSettings

def default : CoreSettings := { }

/-- The keys of the settings, in the order of a list of properties. -/
def keys : List String :=
  ["grpc_host", "grpc_port", "role", "internal_com_host", "internal_com_port",
    "remote_timeout_secs", "connect_timeout_ms", "refresh_interval_secs", "peer_selector"]

def ofFound (find : String -> Option Value.Property) : Except ConversionError CoreSettings := do
  let host ← Value.Property.read default.host Value.toText (find "grpc_host")
  let port ← Value.Property.read default.port Value.toPort (find "grpc_port")
  let role ← Value.Property.read default.role Role.ofValue (find "role")
  let internalHost ←
    Value.Property.read default.internalHost Value.toText (find "internal_com_host")
  let internalPort ←
    Value.Property.read default.internalPort Value.toPort (find "internal_com_port")
  let remoteTimeoutSecs ←
    Value.Property.read default.remoteTimeoutSecs Value.toWord (find "remote_timeout_secs")
  let connectTimeoutMs ←
    Value.Property.read default.connectTimeoutMs Value.toWord (find "connect_timeout_ms")
  let refreshIntervalSecs ←
    Value.Property.read default.refreshIntervalSecs Value.toWord (find "refresh_interval_secs")
  let peerSelector ←
    Value.Property.read default.peerSelector Value.toText (find "peer_selector")
  return { host, port, role, internalHost, internalPort, remoteTimeoutSecs, connectTimeoutMs,
           refreshIntervalSecs, peerSelector }

def ofProperties (properties : Value) : Except ConversionError CoreSettings :=
  properties.readRecord "CoreSettings" keys default ofFound

def configuredHost? (s : CoreSettings) : Option String :=
  if Text.isBlankText s.host then none else some (Text.trim s.host)

/-- The address that others are told; without a configured host it is that of the machine. -/
def advertised (s : CoreSettings) (machineHost : String) : Address :=
  { host := s.configuredHost?.getD machineHost, port := s.port }

/-- The address for traffic inside the cluster; it needs a host and a port. -/
def internalAddress? (s : CoreSettings) : Option Address :=
  let host := Text.trim s.internalHost
  if host.isEmpty || s.internalPort == 0 then none
  else some { host, port := s.internalPort, isInternal := true }

def refreshPeriodSecs (s : CoreSettings) : Nat := max 1 s.refreshIntervalSecs

def timeouts (s : CoreSettings) : Transport.Timeouts :=
  { connectMs := s.connectTimeoutMs, requestSecs := s.remoteTimeoutSecs }

end CoreSettings
end ClusterNode
