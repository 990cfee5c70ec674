import ClusterNode.Health
import ClusterNode.Reconciler.Topology

/-!
# Reconciliation runs

A reconciler keeps the published peers in line with the membership. Its work is done in runs, and
many runs may be under way at once. A run is data: it waits for the run lock, then for the answer of
the membership, then for the connects of the peers without a link, and then it is over. Each step
below takes one run one stage further without interruption, and lists its effects in order.

A serial run holds the run lock from its query to its end and reports the health of the list. A bare
run does neither. A run may be abandoned at any stage at which it waits.
-/

namespace ClusterNode

abbrev RunId := Nat

inductive RunKind
  | serial
  | bare
  deriving DecidableEq, Repr

inductive RunOutcome
  | unchanged
  | rebuilt (created kept closed : Nat)
  deriving DecidableEq, Repr

/-- What a run will do once its connects are over. -/
inductive Plan
  | keep
  | replace (next : List PeerId) (created kept : Nat)
  deriving DecidableEq, Repr

structure Attempt where
  peer : PeerId
  result : Option (Except ClusterError Unit)

inductive RunStage
  | waiting
  | querying
  | connecting (current : List PeerId) (plan : Plan) (attempts : List Attempt)
  | finished (result : Except ClusterError RunOutcome)
  | abandoned

structure Run where
  kind : RunKind
  stage : RunStage

/-- The last four are all that is ever done to the directory. -/
inductive Effect
  | signal (s : Signal)
  | health (report : HealthReport)
  | query (run : RunId)
  | ask (run : RunId) (attempt : Nat) (peer : PeerId) (address : Address)
  | created (peers : List Peer)
  | answered (peer : PeerId) (answer : Except ClusterError Channel)
  | published (next : List PeerId)
  | closed (peer : PeerId)

structure Reconciler where
  internalAddress : Option Address
  check : HealthCheck
  directory : Directory
  selfAddress : Option Address
  runs : List Run
  holder : Option RunId
  queue : List RunId

namespace RunStage

def isOver : RunStage -> Bool
  | finished _ => true
  | abandoned => true
  | _ => false

end RunStage

namespace Attempt

def isOver (a : Attempt) : Bool := a.result.isSome

def warning? (d : Directory) (a : Attempt) : Option Effect :=
  match a.result, d.peer? a.peer with
  | some (.error e), some p =>
      some (.signal (.warning ("Cluster peer " ++ p.address.toText ++
        " not connected, retrying next run: " ++ e.message)))
  | _, _ => none

end Attempt

namespace Reconciler

def create (internalAddress : Option Address) (check : HealthCheck) : Reconciler :=
  { internalAddress, check
    directory := Directory.empty
    selfAddress := none
    runs := []
    holder := none
    queue := [] }

def stage? (r : Reconciler) (id : RunId) : Option RunStage := (r.runs[id]?).map Run.stage

def isOver (r : Reconciler) (id : RunId) : Bool :=
  match r.stage? id with
  | some stage => stage.isOver
  | none => true

def setStage (r : Reconciler) (id : RunId) (stage : RunStage) : Reconciler :=
  { r with runs := r.runs.modify id fun run => { run with stage } }

def kindOf (r : Reconciler) (id : RunId) : RunKind :=
  match r.runs[id]? with
  | some run => run.kind
  | none => .bare

def releaseLock (r : Reconciler) (id : RunId) : Reconciler :=
  if r.holder = some id then { r with holder := none } else r

/-!
## Registration

Between the announcement to the membership and its answer other steps may come.
-/

def announced (r : Reconciler) (address : Address) : Address :=
  match r.internalAddress with
  | some internal => (internal.withInternal true).withSelf true
  | none => address.withSelf true

/-- The membership has answered. An accepted address is the address of this node from now on. -/
def registered (r : Reconciler) (address : Address) :
    Except ClusterError Unit -> Reconciler × List Effect
  | .error e =>
      (r, [.signal (.failure ("Failed to register " ++ address.toText ++ " to the cluster: " ++
        e.message)), .health (.unhealthy e.message)])
  | .ok () => ({ r with selfAddress := some address }, [.health .healthy])

/-!
## The steps of a run
-/

/-- A serial run begins at the end of the queue for the lock, a bare run with its query. -/
def begin (r : Reconciler) : RunKind -> Reconciler × List Effect
  | .serial =>
      ({ r with
          runs := r.runs ++ [{ kind := .serial, stage := .waiting }]
          queue := r.queue ++ [r.runs.length] }, [])
  | .bare =>
      ({ r with runs := r.runs ++ [{ kind := .bare, stage := .querying }] },
        [.query r.runs.length])

def grant (r : Reconciler) : Reconciler × List Effect :=
  match r.holder, r.queue with
  | none, id :: rest =>
      ({ r.setStage id .querying with holder := some id, queue := rest }, [.query id])
  | _, _ => (r, [])

/-- A run that ends in an error leaves all as it is. -/
def fail (r : Reconciler) (id : RunId) (e : ClusterError) : Reconciler × List Effect :=
  let ended := r.setStage id (.finished (.error e))
  match r.kindOf id with
  | .bare => (ended, [])
  | .serial =>
      (ended.releaseLock id,
        [.signal (.failure ("Failed to refresh cluster topology: " ++ e.message)),
          .health (.unhealthy e.message)])

/-- A serial run reports the health of the list that is published when it ends. -/
def succeed (r : Reconciler) (id : RunId) (outcome : RunOutcome) : Reconciler × List Effect :=
  let ended := r.setStage id (.finished (.ok outcome))
  match r.kindOf id with
  | .bare => (ended, [])
  | .serial =>
      (ended.releaseLock id, [.health (r.check r.directory.snapshot).report])

def closeAll (d : Directory) (ids : List PeerId) : Directory := ids.foldl Directory.close d

/-- All connects are over: the list is published, and then the remotes it leaves out are closed. -/
def complete (r : Reconciler) (id : RunId) (current : List PeerId) (plan : Plan)
    (attempts : List Attempt) : Reconciler × List Effect :=
  let warnings := attempts.filterMap fun a => a.warning? r.directory
  match plan with
  | .keep =>
      let (r, effects) := r.succeed id .unchanged
      (r, warnings ++ effects)
  | .replace next created kept =>
      let left := (Topology.superseded current next).filter r.directory.isRemote
      let directory := closeAll (r.directory.publish next) left
      let (r, effects) :=
        { r with directory }.succeed id (.rebuilt created kept left.length)
      (r, warnings ++ [.published next] ++ left.map Effect.closed ++ effects)

def asks (d : Directory) (id : RunId) (attempts : List PeerId) : List Effect :=
  (attempts.zipIdx).filterMap fun (peer, n) =>
    (d.peer? peer).map fun p => .ask id n peer p.address

def connect (r : Reconciler) (id : RunId) (current : List PeerId) (plan : Plan)
    (targets : List PeerId) : Reconciler × List Effect :=
  match Topology.pending r.directory targets with
  | [] => r.complete id current plan []
  | pending =>
      (r.setStage id (.connecting current plan (pending.map fun peer => ⟨peer, none⟩)),
        asks r.directory id pending)

def sizeGauge (addresses : List Address) : Effect :=
  .signal (.gauge "cluster_size" addresses.length)

def confirm (r : Reconciler) (id : RunId) (addresses : List Address) :
    Reconciler × List Effect :=
  let current := r.directory.published
  let (r, effects) := r.connect id current .keep current
  (r, sizeGauge addresses :: effects)

def rebuild (r : Reconciler) (id : RunId) (addresses : List Address) :
    Reconciler × List Effect :=
  let current := r.directory.published
  let draft := Topology.draft r.directory current addresses
  let created : Effect := .created (draft.directory.peers.drop r.directory.peers.length)
  let (r, effects) := { r with directory := draft.directory }.connect id current
    (.replace draft.next draft.created draft.kept) draft.next
  (r, sizeGauge addresses :: created :: effects)

/-- The members that an answer names: each address once, in order, and this node marked. -/
def told (r : Reconciler) (queried : List Address) : List Address :=
  Topology.normalize r.selfAddress queried

def reconcile (r : Reconciler) (id : RunId) (queried : List Address) :
    Reconciler × List Effect :=
  let addresses := r.told queried
  if Topology.sameTopology r.directory.snapshot addresses then r.confirm id addresses
  else r.rebuild id addresses

def answer (r : Reconciler) (id : RunId) (result : Except ClusterError (List Address)) :
    Reconciler × List Effect :=
  match r.stage? id with
  | some .querying =>
      match result with
      | .error e => r.fail id e
      | .ok queried => r.reconcile id queried
  | _ => (r, [])

/-- The connector has answered one attempt of a run; the last answer ends the run. -/
def reply (r : Reconciler) (id : RunId) (attempt : Nat) (result : Except ClusterError Channel) :
    Reconciler × List Effect :=
  match r.stage? id with
  | some (.connecting current plan attempts) =>
      match attempts[attempt]? with
      | some { peer, result := none } =>
          match r.directory.peer? peer with
          | some p =>
              let (p, ended) := p.finishConnect result
              let attempts := attempts.set attempt { peer, result := some ended }
              let r := { r with directory := r.directory.modify peer fun _ => p }
              if attempts.all Attempt.isOver then
                let (r, effects) := r.complete id current plan attempts
                (r, .answered peer result :: effects)
              else (r.setStage id (.connecting current plan attempts), [.answered peer result])
          | none => (r, [])
      | _ => (r, [])
  | _ => (r, [])

/-- Drops a run where it stands. Its lock is free, and nothing it planned is done. -/
def abandon (r : Reconciler) (id : RunId) : Reconciler :=
  if r.isOver id then r
  else
    let r := (r.setStage id .abandoned).releaseLock id
    { r with queue := r.queue.filter (· != id) }

def closePeer (r : Reconciler) (peer : PeerId) : Reconciler :=
  { r with directory := r.directory.close peer }

/-!
## A whole run

A run alone, with an answer of the membership and a connector that answers at once.
-/

/-- Answers the asks among the effects one after the other. -/
def replyAll (connector : PeerId -> Address -> Except ClusterError Channel) :
    Reconciler -> List Effect -> Reconciler × List Effect
  | r, [] => (r, [])
  | r, .ask id attempt peer address :: rest =>
      let (r, effects) := r.reply id attempt (connector peer address)
      let (r, more) := replyAll connector r rest
      (r, effects ++ more)
  | r, _ :: rest => replyAll connector r rest

def drive (r : Reconciler) (id : RunId) (result : Except ClusterError (List Address))
    (connector : PeerId -> Address -> Except ClusterError Channel) : Reconciler × List Effect :=
  let (r, granted) := r.grant
  let (r, answered) := r.answer id result
  let (r, connected) := replyAll connector r answered
  (r, granted ++ answered ++ connected)

def refresh (r : Reconciler) (result : Except ClusterError (List Address))
    (connector : PeerId -> Address -> Except ClusterError Channel) : Reconciler × List Effect :=
  let id := r.runs.length
  let (r, begun) := r.begin .serial
  let (r, driven) := r.drive id result connector
  (r, begun ++ driven)

end Reconciler
end ClusterNode
