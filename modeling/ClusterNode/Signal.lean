/-!
# Signals

What a running node shows to the outside: warnings, errors and gauge values, in the order in which
they occur.
-/

namespace ClusterNode

inductive Signal
  | warning (text : String)
  | failure (text : String)
  | gauge (name : String) (value : Nat)
  deriving DecidableEq, Repr

namespace Signal

/-- The log line of a signal; a gauge has none. -/
def logLine? : Signal -> Option String
  | warning text => some ("WARN " ++ text)
  | failure text => some ("ERROR " ++ text)
  | gauge _ _ => none

def gauge? : Signal -> Option (String × Nat)
  | gauge name value => some (name, value)
  | _ => none

def logLines (signals : List Signal) : List String := signals.filterMap logLine?

def gauges (signals : List Signal) : List (String × Nat) := signals.filterMap gauge?

end Signal
end ClusterNode
