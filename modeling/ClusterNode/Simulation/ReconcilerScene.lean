import ClusterNode.Membership
import ClusterNode.Reconciler.Task
import ClusterNode.Selector
import ClusterNode.Simulation.Clock
import ClusterNode.Simulation.Connector

/-!
# A reconciler on a stage

A reconciler with a scripted connector, a membership that may be slow or fail on demand, a recurring
task, and a clock that runs ahead. What the reconciler does is written down until the next look. The
stage is set in milliseconds.
-/

namespace ClusterNode
namespace Simulation

inductive Backend
  | script (members : List Address)
  | membership (m : Membership)

structure Record where
  health : List HealthReport
  asked : List String
  registered : List Address
  signals : List Signal

structure ReconcilerScene where
  now : Time
  interval : Time
  reconciler : Reconciler
  connector : ScriptedConnector (RunId × Nat)
  backend : Backend
  files : Files
  failQuery : Option ClusterError
  failRegister : Option ClusterError
  queryDelay : Nat
  queries : Nat
  waitingQueries : List (RunId × Time)
  background : List RunId
  task : Option RecurringTask
  record : Record
  seenEditions : List Nat
  seenPeers : List PeerId

namespace Record

def empty : Record := { health := [], asked := [], registered := [], signals := [] }

end Record

namespace ReconcilerScene

def patience : Time := Time.seconds 10

def start (ms : Nat) (internalAddress : Option Address) (check : HealthCheck)
    (backend : Backend) : ReconcilerScene :=
  { now := 0, interval := Time.millis ms
    reconciler := Reconciler.create internalAddress check
    connector := .create
    backend, files := Files.empty
    failQuery := none, failRegister := none
    queryDelay := 0, queries := 0, waitingQueries := [], background := [], task := none
    record := .empty, seenEditions := [], seenPeers := [] }

def note (s : ReconcilerScene) (signals : List Signal) : ReconcilerScene :=
  { s with record := { s.record with signals := s.record.signals ++ signals } }

/-!
## Effects
-/

def absorbOne (now : Time) (s : ReconcilerScene) : Effect -> ReconcilerScene
  | .signal signal => s.note [signal]
  | .health report => { s with record := { s.record with health := s.record.health ++ [report] } }
  | .query run =>
      { s with
        queries := s.queries + 1
        waitingQueries := s.waitingQueries ++ [(run, now + Time.millis s.queryDelay)] }
  | .ask run attempt _ address =>
      { s with
        record := { s.record with asked := s.record.asked ++ [address.toText] }
        connector := s.connector.ask now (run, attempt) address }
  | _ => s

def absorb (now : Time) (s : ReconcilerScene) (result : Reconciler × List Effect) :
    ReconcilerScene :=
  result.2.foldl (absorbOne now) { s with reconciler := result.1 }

/-!
## Membership
-/

def askBackend (s : ReconcilerScene) : Except ClusterError (List Address) × List Signal :=
  match s.failQuery with
  | some e => (.error e, [])
  | none =>
      match s.backend with
      | .script members => (.ok members, [])
      | .membership m => m.query s.files.readText

def register (s : ReconcilerScene) (address : Address) :
    ReconcilerScene × Except ClusterError Unit :=
  let announced := s.reconciler.announced address
  let s := { s with record := { s.record with registered := s.record.registered ++ [announced] } }
  let (s, result) : ReconcilerScene × Except ClusterError Unit :=
    match s.failRegister, s.backend with
    | some e, _ => (s, .error e)
    | none, .script _ => (s, .ok ())
    | none, .membership m =>
        let (m, result, signals) := m.register s.files.readText announced
        ({ s with backend := .membership m }.note signals, result)
  (s.absorb s.now (s.reconciler.registered announced result), result)

/-!
## Settling
-/

def answerQuery (now : Time) (s : ReconcilerScene) (query : RunId × Time) : ReconcilerScene :=
  let (result, signals) := s.askBackend
  (s.note signals).absorb now (s.reconciler.answer query.1 result)

def answerQueries (now : Time) (s : ReconcilerScene) : ReconcilerScene :=
  let (due, waiting) := s.waitingQueries.partition fun query => query.2 ≤ now
  due.foldl (answerQuery now) { s with waitingQueries := waiting }

def answerConnects (now : Time) (s : ReconcilerScene) : ReconcilerScene :=
  let (connector, answers) := s.connector.poll now
  answers.foldl (fun s ((run, attempt), answer) =>
    s.absorb now (s.reconciler.reply run attempt answer)) { s with connector }

def runTask (now : Time) (s : ReconcilerScene) : ReconcilerScene :=
  match s.task with
  | none => s
  | some task =>
      let (task, reconciler, effects) := (task.settle s.reconciler).tick now s.reconciler
      { s with task := some task }.absorb now (reconciler, effects)

/-- Lets each run and the task go on as far as they can without waiting for another. -/
def settleOnce (now : Time) (s : ReconcilerScene) : ReconcilerScene :=
  runTask now (answerConnects now (answerQueries now (s.absorb now s.reconciler.grant)))

def repeatSettle (now : Time) : Nat -> ReconcilerScene -> ReconcilerScene
  | 0, s => s
  | n + 1, s => repeatSettle now n (settleOnce now s)

def settle (now : Time) (s : ReconcilerScene) : ReconcilerScene :=
  repeatSettle now (s.reconciler.queue.length + 6) { s with now }

def wakes (s : ReconcilerScene) : List Time :=
  s.connector.wakes ++ s.waitingQueries.map Prod.snd ++ (s.task.bind RecurringTask.wake?).toList

def forgetDropped (s : ReconcilerScene) : ReconcilerScene :=
  { s with
    connector := s.connector.forget fun tag => s.reconciler.isOver tag.1
    waitingQueries := s.waitingQueries.filter fun query => !s.reconciler.isOver query.1 }

def sleep (s : ReconcilerScene) (ms : Nat) : ReconcilerScene :=
  let (now, s) := advance settle wakes (fun _ => false) (s.now + Time.millis ms) s.now s
  { s with now }

/-!
## Runs and the task
-/

def result? (s : ReconcilerScene) (run : RunId) : Option (Except ClusterError RunOutcome) :=
  match s.reconciler.stage? run with
  | some (.finished result) => some result
  | _ => none

def run (s : ReconcilerScene) (kind : RunKind) :
    ReconcilerScene × Option (Except ClusterError RunOutcome) :=
  let id := s.reconciler.runs.length
  let s := s.absorb s.now (s.reconciler.begin kind)
  let (now, s) := advance settle wakes (fun s => s.reconciler.isOver id) (s.now + patience) s.now s
  let result := s.result? id
  let s := { s with reconciler := s.reconciler.abandon id }.forgetDropped
  (settle now s, result)

def refreshStart (s : ReconcilerScene) : ReconcilerScene :=
  let id := s.reconciler.runs.length
  let s := s.absorb s.now (s.reconciler.begin .serial)
  settle s.now { s with background := s.background ++ [id] }

def backgroundRuns (s : ReconcilerScene) : List Bool := s.background.map s.reconciler.isOver

def stopTask (s : ReconcilerScene) : ReconcilerScene :=
  match s.task with
  | none => s
  | some task =>
      let (task, reconciler) := task.stop s.reconciler
      settle s.now { s with task := some task, reconciler }.forgetDropped

def startTask (s : ReconcilerScene) : ReconcilerScene :=
  let s := (s.stopTask).note (Pace.warning? s.interval).toList
  settle s.now { s with task := some (RecurringTask.start s.interval s.now) }

def taskEnded (s : ReconcilerScene) : Bool :=
  match s.task with
  | some task => task.isEnded
  | none => true

/-!
## Steps on the stage
-/

def setMembers (s : ReconcilerScene) (members : List Address) : ReconcilerScene :=
  match s.backend with
  | .script _ => { s with backend := .script members }
  | .membership _ => s

def setScript (s : ReconcilerScene) (script : ConnectScript) : ReconcilerScene :=
  { s with connector := { s.connector with script } }

def release (s : ReconcilerScene) : ReconcilerScene :=
  settle s.now { s with connector := s.connector.release }

/-- Closes a peer by the number it was given when it was first seen. -/
def closeSeen (s : ReconcilerScene) (number : Nat) : ReconcilerScene :=
  match s.seenPeers[number]? with
  | some id => { s with reconciler := s.reconciler.closePeer id }
  | none => s

def select (s : ReconcilerScene) (selector : String) (key : UInt64) : Option Peer :=
  match Selector.ofText selector with
  | .ok selector => (selector.select s.reconciler.directory.snapshot key).1
  | .error _ => none

/-!
## Looking

Peers and lists are numbered when they are first seen.
-/

def seen (known : List Nat) (new : List Nat) : List Nat :=
  new.foldl (fun known n => if known.contains n then known else known ++ [n]) known

def numberOf (known : List Nat) (n : Nat) : Nat := known.idxOf n

def look (s : ReconcilerScene) : ReconcilerScene :=
  { s with
    seenEditions := seen s.seenEditions [s.reconciler.directory.edition]
    seenPeers := seen s.seenPeers s.reconciler.directory.published }

def listNumber (s : ReconcilerScene) : Nat :=
  numberOf s.seenEditions s.reconciler.directory.edition

def publishedPeers (s : ReconcilerScene) : List (Nat × Peer) :=
  s.reconciler.directory.published.filterMap fun id =>
    (s.reconciler.directory.peer? id).map fun p => (numberOf s.seenPeers id, p)

/-- The peers that were seen before and are not published any more. -/
def retiredPeers (s : ReconcilerScene) : List (Nat × Peer) :=
  (s.seenPeers.zipIdx).filterMap fun (id, number) =>
    if s.reconciler.directory.published.contains id then none
    else (s.reconciler.directory.peer? id).map fun p => (number, p)

def takeRecord (s : ReconcilerScene) : Record × ReconcilerScene :=
  (s.record, { s with record := .empty })

end ReconcilerScene
end Simulation
end ClusterNode
