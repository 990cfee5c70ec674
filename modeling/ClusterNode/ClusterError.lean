/-!
# Errors of the cluster

What can go wrong between this node and the others, with the one wording of each cause.
-/

namespace ClusterNode

inductive ClusterError
  | query (reason : String)
  | register (address reason : String)
  | connect (address cause : String)
  | invalidAddress (text : String)
  | connectionClosed (address : String)
  | config (reason : String)
  deriving DecidableEq, Repr

namespace ClusterError

def message : ClusterError -> String
  | query reason => "failed to query cluster nodes: " ++ reason
  | register address reason => "failed to register " ++ address ++ ": " ++ reason
  | connect address cause => "failed to connect to " ++ address ++ ": " ++ cause
  | invalidAddress text => "invalid address '" ++ text ++ "'"
  | connectionClosed address => "connection to " ++ address ++ " is closed"
  | config reason => "cluster configuration error: " ++ reason

/-- The error that caused this one, for a failed connect only. -/
def cause? : ClusterError -> Option String
  | connect _ cause => some cause
  | _ => none

end ClusterError
end ClusterNode
