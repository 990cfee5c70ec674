import ClusterNode.Reconciler.Run
import ClusterNode.Time

/-!
# The recurring task

Runs at a steady pace. The first run is due when the task starts, and another one each period later.
While a run is under way none is begun. A run that begins at most five milliseconds late leaves the
schedule as it is; a later one moves the schedule, and the next is due a period after it.

A stop ends the task, and with it the run under way.
-/

namespace ClusterNode

structure Pace where
  period : Time
  due : Time
  deriving DecidableEq, Repr

namespace Pace

def shortest : Time := Time.millis 100

def tolerance : Time := Time.millis 5

def start (interval : Time) (now : Time) : Pace :=
  { period := max shortest interval, due := now }

/-- The pace after a run has begun now. -/
def advance (p : Pace) (now : Time) : Pace :=
  { p with due := (if p.due + tolerance < now then now else p.due) + p.period }

def warning? (interval : Time) : Option Signal :=
  if interval < shortest then
    some (.warning ("Refresh interval " ++ interval.toText ++ " is too short, using " ++
      shortest.toText))
  else none

end Pace

inductive TaskStage
  | idle
  | running (run : RunId)
  | ended
  deriving DecidableEq, Repr

structure RecurringTask where
  pace : Pace
  stage : TaskStage
  deriving DecidableEq, Repr

namespace RecurringTask

def start (interval : Time) (now : Time) : RecurringTask :=
  { pace := Pace.start interval now, stage := .idle }

def isEnded (t : RecurringTask) : Bool := t.stage == .ended

/-- Begins the run that is due, if the task is idle. -/
def tick (t : RecurringTask) (now : Time) (r : Reconciler) :
    RecurringTask × Reconciler × List Effect :=
  match t.stage with
  | .idle =>
      if t.pace.due ≤ now then
        let (r', effects) := r.begin .serial
        ({ pace := t.pace.advance now, stage := .running r.runs.length }, r', effects)
      else (t, r, [])
  | _ => (t, r, [])

def settle (t : RecurringTask) (r : Reconciler) : RecurringTask :=
  match t.stage with
  | .running run => if r.isOver run then { t with stage := .idle } else t
  | _ => t

def stop (t : RecurringTask) (r : Reconciler) : RecurringTask × Reconciler :=
  ({ t with stage := .ended },
    match t.stage with
    | .running run => r.abandon run
    | _ => r)

def wake? (t : RecurringTask) : Option Time :=
  match t.stage with
  | .idle => some t.pace.due
  | _ => none

end RecurringTask
end ClusterNode
