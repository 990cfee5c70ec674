/-!
# The shutdown signal

A signal that can be given any number of times. Who waits for it is done with the next time it is
given; what was given before the waiting began does not count.
-/

namespace ClusterNode

structure ShutdownSignal where
  given : Nat
  deriving DecidableEq, Repr

/-- Someone who waits, and how often the signal had been given when the waiting began. -/
structure ShutdownWaiter where
  since : Nat
  deriving DecidableEq, Repr

namespace ShutdownSignal

def create : ShutdownSignal := { given := 0 }

def subscribe (s : ShutdownSignal) : ShutdownWaiter := { since := s.given }

def shutdown (s : ShutdownSignal) : ShutdownSignal := { given := s.given + 1 }

def isDone (s : ShutdownSignal) (w : ShutdownWaiter) : Bool := w.since < s.given

theorem isDone_subscribe (s : ShutdownSignal) : s.isDone s.subscribe = false := by
  simp [isDone, subscribe]

theorem isDone_shutdown_subscribe (s : ShutdownSignal) : s.shutdown.isDone s.subscribe = true := by
  simp [isDone, subscribe, shutdown]

theorem isDone_shutdown {s : ShutdownSignal} {w : ShutdownWaiter} (h : s.isDone w = true) :
    s.shutdown.isDone w = true :=
  decide_eq_true (Nat.lt_succ_of_lt (of_decide_eq_true h))

end ShutdownSignal
end ClusterNode
