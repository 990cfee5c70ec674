import ClusterNode.Simulation.Clock
import ClusterNode.Simulation.Connector

/-!
# Peers on a stage

Named peers that share one scripted connector, with connects in the foreground and in the
background. A name may be given to a new peer; connects that are under way go on with the old one.
-/

namespace ClusterNode
namespace Simulation

/-- A connect under way or over. -/
inductive ConnectTask
  | waiting
  | ended (result : Except ClusterError Unit)

structure PeerScene where
  now : Time
  peers : List Peer
  names : List (String × Nat)
  connector : ScriptedConnector (Nat × Nat)
  tasks : List ConnectTask
  taskNames : List (String × Nat)
  asked : List String

namespace PeerScene

def start : PeerScene :=
  { now := 0, peers := [], names := [], connector := .create, tasks := [], taskNames := [],
    asked := [] }

def patience : Time := Time.seconds 10

def put (names : List (String × Nat)) (name : String) (n : Nat) : List (String × Nat) :=
  (names.filter fun (other, _) => other != name) ++ [(name, n)]

def find? (names : List (String × Nat)) (name : String) : Option Nat :=
  (names.find? fun (other, _) => other == name).map Prod.snd

def peer? (s : PeerScene) (name : String) : Option Peer :=
  (find? s.names name).bind fun n => s.peers[n]?

def add (s : PeerScene) (name : String) (p : Peer) : PeerScene :=
  { s with peers := s.peers ++ [p], names := put s.names name s.peers.length }

def deliver (s : PeerScene) (tag : Nat × Nat) (answer : Except ClusterError Channel) : PeerScene :=
  match s.peers[tag.1]? with
  | none => s
  | some p =>
      let (p, result) := p.finishConnect answer
      { s with peers := s.peers.set tag.1 p, tasks := s.tasks.set tag.2 (.ended result) }

def settle (now : Time) (s : PeerScene) : PeerScene :=
  let (connector, answers) := s.connector.poll now
  answers.foldl (fun s (tag, answer) => s.deliver tag answer) { s with now, connector }

def wakes (s : PeerScene) : List Time := s.connector.wakes

def beginConnect (s : PeerScene) (n : Nat) (p : Peer) : PeerScene × Nat :=
  let task := s.tasks.length
  match p.beginConnect with
  | .ended result => ({ s with tasks := s.tasks ++ [.ended result] }, task)
  | .ask =>
      ({ s with
          tasks := s.tasks ++ [.waiting]
          asked := s.asked ++ [p.address.toText]
          connector := s.connector.ask s.now (n, task) p.address }, task)

def result? (s : PeerScene) (task : Nat) : Option (Except ClusterError Unit) :=
  match s.tasks[task]? with
  | some (.ended result) => some result
  | _ => none

def connectStart (s : PeerScene) (name taskName : String) : PeerScene :=
  match find? s.names name with
  | none => s
  | some n =>
      match s.peers[n]? with
      | none => s
      | some p =>
          let (s, task) := s.beginConnect n p
          settle s.now { s with taskNames := put s.taskNames taskName task }

/-- A connect that is dropped when it takes too long; then it has no result. -/
def connect (s : PeerScene) (name : String) : PeerScene × Option (Except ClusterError Unit) :=
  match find? s.names name with
  | none => (s, none)
  | some n =>
      match s.peers[n]? with
      | none => (s, none)
      | some p =>
          let (s, task) := s.beginConnect n p
          let (now, s) := advance settle wakes (fun s => (s.result? task).isSome)
            (s.now + patience) s.now s
          let result := s.result? task
          let connector := match result with
            | some _ => s.connector
            | none => s.connector.forget fun tag => tag.2 == task
          ({ s with now, connector }, result)

def taskResult? (s : PeerScene) (taskName : String) : Option (Except ClusterError Unit) :=
  (find? s.taskNames taskName).bind s.result?

def close (s : PeerScene) (name : String) : PeerScene :=
  match find? s.names name with
  | none => s
  | some n => { s with peers := s.peers.modify n Peer.close }

def setScript (s : PeerScene) (script : ConnectScript) : PeerScene :=
  { s with connector := { s.connector with script } }

def release (s : PeerScene) : PeerScene :=
  settle s.now { s with connector := s.connector.release }

def sleep (s : PeerScene) (ms : Nat) : PeerScene :=
  let (now, s) := advance settle wakes (fun _ => false) (s.now + Time.millis ms) s.now s
  { s with now }

def named (s : PeerScene) : List (String × Peer) :=
  (s.names.mergeSort fun a b => a.1 ≤ b.1).filterMap fun (name, n) =>
    (s.peers[n]?).map fun p => (name, p)

def takeAsked (s : PeerScene) : List String × PeerScene := (s.asked, { s with asked := [] })

end PeerScene
end Simulation
end ClusterNode
