import ClusterNode.Peer
import ClusterNode.Signal

/-!
# Health of a node

A health check looks at the published peers and returns a status; a status is passed on as one
report. The check of a node asks for a list that is not empty, for this node in it where that is
required, and for an address of this node that others can reach.
-/

namespace ClusterNode

/-- The two fields are independent: a status may be unhealthy without a reason. -/
structure HealthStatus where
  healthy : Bool
  reason : Option String
  deriving DecidableEq, Repr

inductive HealthReport
  | healthy
  | unhealthy (reason : String)
  deriving DecidableEq, Repr

abbrev HealthCheck := List Peer -> HealthStatus

namespace HealthStatus

def fine : HealthStatus := { healthy := true, reason := none }

def unfit (reason : String) : HealthStatus := { healthy := false, reason := some reason }

/-- A status is reported as unhealthy when it is so and says why. -/
def report (s : HealthStatus) : HealthReport :=
  match s.reason with
  | some reason => if s.healthy then .healthy else .unhealthy reason
  | none => .healthy

end HealthStatus

namespace HealthReport

def toText : HealthReport -> String
  | healthy => "healthy"
  | unhealthy reason => "unhealthy: " ++ reason

end HealthReport

/-!
## The check of a node
-/

namespace NodeHealth

def noInstances : String := "can't get the instance list"

def selfMissing : String := "can't find this node in the cluster"

def loopbackSelf (address : Address) : String :=
  "the self address " ++ address.toText ++ " is a loopback address, other nodes can't reach it"

def check (requireSelf : Bool) : HealthCheck := fun peers =>
  if peers.isEmpty then .unfit noInstances
  else
    match peers.find? Peer.isSelf with
    | none => if requireSelf then .unfit selfMissing else .fine
    | some here =>
        if 1 < peers.length && here.address.isLoopback then .unfit (loopbackSelf here.address)
        else .fine

end NodeHealth

/-!
## Health as a gauge
-/

namespace HealthGauge

def metric (name : String) : String := name ++ "_health"

/-- One for healthy and zero for unhealthy, the latter with a warning. -/
def signals (name : String) : HealthReport -> List Signal
  | .healthy => [.gauge (metric name) 1]
  | .unhealthy reason =>
      [.warning (metric name ++ " unhealthy: " ++ reason), .gauge (metric name) 0]

end HealthGauge

end ClusterNode
