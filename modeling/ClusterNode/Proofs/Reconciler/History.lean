import ClusterNode.Proofs.Reconciler.Topology

/-!
# Histories of a reconciler

A history is a list of events, each of which takes the reconciler one uninterrupted step further.
Events that find nothing to do leave all as it is, so every list of events is a history, and every
interleaving of runs, registrations and closes is one. The effects of a history account for every
change of its directory: the directory is the replay of the effects, and the moments between two
effects are what readers may see.
-/

namespace ClusterNode

inductive Event where
  | registered (address : Address) (answer : Except ClusterError Unit)
  | begun (kind : RunKind)
  | granted
  | answered (run : RunId) (answer : Except ClusterError (List Address))
  | replied (run : RunId) (attempt : Nat) (answer : Except ClusterError Channel)
  | dropped (run : RunId)
  | closed (peer : PeerId)

/-- All runs take the lock, and nobody but they closes peers. -/
def Event.IsSerial : Event -> Prop
  | begun kind => kind = RunKind.serial
  | closed _ => False
  | _ => True

/-!
## Effects on the directory
-/

/-- Effects that no peer and no list is part of. -/
def Effect.IsNotice : Effect -> Prop
  | signal _ => True
  | health _ => True
  | query _ => True
  | _ => False

namespace Directory

def record (d : Directory) : Effect -> Directory
  | .created peers => { d with peers := d.peers ++ peers }
  | .answered peer answer => d.modify peer fun p => (p.finishConnect answer).1
  | .published next => d.publish next
  | .closed peer => d.close peer
  | _ => d

def replay (d : Directory) (effects : List Effect) : Directory :=
  effects.foldl record d

/-- The directories before, between and after some effects. -/
def moments (d : Directory) : List Effect -> List Directory
  | [] => [d]
  | e :: rest => d :: moments (d.record e) rest

@[simp] theorem replay_nil (d : Directory) : d.replay [] = d := rfl

@[simp] theorem replay_cons (d : Directory) (e : Effect) (rest : List Effect) :
    d.replay (e :: rest) = (d.record e).replay rest := rfl

@[simp] theorem replay_append (d : Directory) (a b : List Effect) :
    d.replay (a ++ b) = (d.replay a).replay b :=
  List.foldl_append

theorem replay_mem_moments (d : Directory) (effects : List Effect) :
    d.replay effects ∈ d.moments effects := by
  induction effects generalizing d with
  | nil => exact List.mem_singleton_self d
  | cons e rest ih => exact List.mem_cons_of_mem d (ih (d.record e))

theorem mem_moments_append {d m : Directory} {a b : List Effect}
    (h : m ∈ d.moments (a ++ b)) : m ∈ d.moments a ∨ m ∈ (d.replay a).moments b := by
  induction a generalizing d with
  | nil => exact Or.inr h
  | cons e rest ih =>
      rcases List.mem_cons.mp h with rfl | h
      · exact Or.inl List.mem_cons_self
      · exact (ih h).imp_left (List.mem_cons_of_mem d)

theorem grows_record (d : Directory) (e : Effect) : d.Grows (d.record e) := by
  cases e with
  | created peers => exact grows_append d peers
  | answered peer answer =>
      exact grows_modify d peer fun p => Peer.leadsTo_finishConnect p answer
  | published next => exact grows_publish d next
  | closed peer => exact grows_close d peer
  | signal _ => exact Grows.refl d
  | health _ => exact Grows.refl d
  | query _ => exact Grows.refl d
  | ask _ _ _ _ => exact Grows.refl d

theorem grows_replay (d : Directory) (effects : List Effect) : d.Grows (d.replay effects) := by
  induction effects generalizing d with
  | nil => exact Grows.refl d
  | cons e rest ih => exact (grows_record d e).trans (ih (d.record e))

theorem record_of_isNotice {e : Effect} (h : e.IsNotice) (d : Directory) : d.record e = d := by
  cases e with
  | signal _ => rfl
  | health _ => rfl
  | query _ => rfl
  | ask _ _ _ _ => cases h
  | created _ => cases h
  | answered _ _ => cases h
  | published _ => cases h
  | closed _ => cases h

theorem replay_notices {effects : List Effect} (h : forall e, e ∈ effects -> e.IsNotice)
    (d : Directory) : d.replay effects = d := by
  induction effects with
  | nil => rfl
  | cons e rest ih =>
      rw [replay_cons, record_of_isNotice (h e List.mem_cons_self) d]
      exact ih fun e' he' => h e' (List.mem_cons_of_mem e he')

theorem published_record {e : Effect} (h : forall next, e ≠ .published next)
    (d : Directory) : (d.record e).published = d.published := by
  cases e with
  | published next => exact absurd rfl (h next)
  | _ => rfl

theorem edition_record {e : Effect} (h : forall next, e ≠ .published next)
    (d : Directory) : (d.record e).edition = d.edition := by
  cases e with
  | published next => exact absurd rfl (h next)
  | _ => rfl

theorem replay_closed (d : Directory) (ids : List PeerId) :
    d.replay (ids.map Effect.closed) = Reconciler.closeAll d ids := by
  induction ids generalizing d with
  | nil => rfl
  | cons id rest ih => exact ih (d.close id)

end Directory

/-!
## Steps
-/

namespace Reconciler

def step (r : Reconciler) : Event -> Reconciler × List Effect
  | .registered address answer => r.registered (r.announced address) answer
  | .begun kind => r.begin kind
  | .granted => r.grant
  | .answered run answer => r.answer run answer
  | .replied run attempt answer => r.reply run attempt answer
  | .dropped run => (r.abandon run, [])
  | .closed peer => (r.closePeer peer, [.closed peer])

def after (r : Reconciler) : List Event -> Reconciler
  | [] => r
  | event :: rest => after (r.step event).1 rest

def trace (r : Reconciler) : List Event -> List Effect
  | [] => []
  | event :: rest => (r.step event).2 ++ trace (r.step event).1 rest

@[simp] theorem after_append (r : Reconciler) (a b : List Event) :
    r.after (a ++ b) = (r.after a).after b := by
  induction a generalizing r with
  | nil => rfl
  | cons event rest ih => exact ih (r.step event).1

theorem after_concat (r : Reconciler) (history : List Event) (event : Event) :
    r.after (history ++ [event]) = ((r.after history).step event).1 :=
  after_append r history [event]

@[simp] theorem trace_append (r : Reconciler) (a b : List Event) :
    r.trace (a ++ b) = r.trace a ++ (r.after a).trace b := by
  induction a generalizing r with
  | nil => rfl
  | cons event rest ih =>
      show (r.step event).2 ++ (r.step event).1.trace (rest ++ b) = _
      rw [ih, ← List.append_assoc]
      rfl

theorem trace_concat (r : Reconciler) (history : List Event) (event : Event) :
    r.trace (history ++ [event]) = r.trace history ++ ((r.after history).step event).2 := by
  rw [trace_append, trace, trace, List.append_nil]

/-!
## Stages of runs
-/

theorem isOver_eq {r : Reconciler} {id : RunId} {s : RunStage} (hs : r.stage? id = some s) :
    r.isOver id = s.isOver := by
  unfold isOver
  rw [hs]

theorem stage?_setStage (r : Reconciler) (id other : RunId) (stage : RunStage) :
    (r.setStage id stage).stage? other =
      (r.stage? other).map fun s => if id = other then stage else s := by
  unfold stage? setStage
  dsimp only
  rw [List.getElem?_modify]
  cases r.runs[other]? with
  | none => rfl
  | some run => by_cases h : id = other <;> simp [h]

theorem stage?_setStage_ne (r : Reconciler) {id other : RunId} (h : id ≠ other)
    (stage : RunStage) : (r.setStage id stage).stage? other = r.stage? other := by
  rw [stage?_setStage]
  simp [h]

theorem stage?_setStage_self {r : Reconciler} {id : RunId} {s : RunStage}
    (h : r.stage? id = some s) (stage : RunStage) :
    (r.setStage id stage).stage? id = some stage := by
  rw [stage?_setStage, h]
  simp

theorem eq_of_stage?_setStage_self {r : Reconciler} {id : RunId} {stage s : RunStage}
    (h : (r.setStage id stage).stage? id = some s) : s = stage := by
  rw [stage?_setStage] at h
  cases hs : r.stage? id with
  | none => simp [hs] at h
  | some old =>
      rw [hs] at h
      simpa using h.symm

@[simp] theorem kindOf_setStage (r : Reconciler) (id other : RunId) (stage : RunStage) :
    (r.setStage id stage).kindOf other = r.kindOf other := by
  unfold kindOf setStage
  dsimp only
  rw [List.getElem?_modify]
  cases r.runs[other]? with
  | none => rfl
  | some run => by_cases h : id = other <;> simp [h]

@[simp] theorem directory_setStage (r : Reconciler) (id : RunId) (stage : RunStage) :
    (r.setStage id stage).directory = r.directory := rfl

@[simp] theorem holder_setStage (r : Reconciler) (id : RunId) (stage : RunStage) :
    (r.setStage id stage).holder = r.holder := rfl

@[simp] theorem directory_releaseLock (r : Reconciler) (id : RunId) :
    (r.releaseLock id).directory = r.directory := by
  unfold releaseLock
  split <;> rfl

@[simp] theorem stage?_releaseLock (r : Reconciler) (id other : RunId) :
    (r.releaseLock id).stage? other = r.stage? other := by
  unfold releaseLock
  split <;> rfl

@[simp] theorem kindOf_releaseLock (r : Reconciler) (id other : RunId) :
    (r.releaseLock id).kindOf other = r.kindOf other := by
  unfold releaseLock
  split <;> rfl

theorem holder_releaseLock (r : Reconciler) (id : RunId) :
    (r.releaseLock id).holder = if r.holder = some id then none else r.holder := by
  unfold releaseLock
  split <;> rfl

@[simp] theorem selfAddress_releaseLock (r : Reconciler) (id : RunId) :
    (r.releaseLock id).selfAddress = r.selfAddress := by
  unfold releaseLock
  split <;> rfl

def conclude (r : Reconciler) (id : RunId) (result : Except ClusterError RunOutcome) :
    Reconciler :=
  match r.kindOf id with
  | .bare => r.setStage id (.finished result)
  | .serial => (r.setStage id (.finished result)).releaseLock id

theorem fail_fst (r : Reconciler) (id : RunId) (e : ClusterError) :
    (r.fail id e).1 = r.conclude id (.error e) := by
  unfold fail conclude
  cases r.kindOf id <;> rfl

theorem succeed_fst (r : Reconciler) (id : RunId) (outcome : RunOutcome) :
    (r.succeed id outcome).1 = r.conclude id (.ok outcome) := by
  unfold succeed conclude
  cases r.kindOf id <;> rfl

@[simp] theorem directory_conclude (r : Reconciler) (id : RunId)
    (result : Except ClusterError RunOutcome) :
    (r.conclude id result).directory = r.directory := by
  unfold conclude
  cases r.kindOf id <;> simp

@[simp] theorem selfAddress_conclude (r : Reconciler) (id : RunId)
    (result : Except ClusterError RunOutcome) :
    (r.conclude id result).selfAddress = r.selfAddress := by
  unfold conclude
  cases r.kindOf id with
  | bare => rfl
  | serial => exact selfAddress_releaseLock _ id

@[simp] theorem stage?_conclude (r : Reconciler) (id other : RunId)
    (result : Except ClusterError RunOutcome) :
    (r.conclude id result).stage? other =
      (r.setStage id (.finished result)).stage? other := by
  unfold conclude
  cases r.kindOf id <;> simp

@[simp] theorem kindOf_conclude (r : Reconciler) (id other : RunId)
    (result : Except ClusterError RunOutcome) :
    (r.conclude id result).kindOf other = r.kindOf other := by
  unfold conclude
  cases r.kindOf id <;> simp

def entry : RunKind -> RunStage
  | .serial => .waiting
  | .bare => .querying

theorem getElem?_runs_begin (r : Reconciler) (kind : RunKind) (id : RunId) :
    (r.begin kind).1.runs[id]? =
      if id = r.runs.length then some { kind, stage := entry kind } else r.runs[id]? := by
  have hruns : (r.begin kind).1.runs = r.runs ++ [{ kind, stage := entry kind }] := by
    cases kind with
    | serial => rfl
    | bare => rfl
  rw [hruns]
  rcases Nat.lt_trichotomy id r.runs.length with hlt | heq | hgt
  · rw [List.getElem?_append_left hlt, if_neg (Nat.ne_of_lt hlt)]
  · simp [heq]
  · rw [if_neg (Nat.ne_of_gt hgt), List.getElem?_eq_none (Nat.le_of_lt hgt)]
    apply List.getElem?_eq_none
    rw [List.length_append, List.length_singleton]
    exact hgt

theorem stage?_begin (r : Reconciler) (kind : RunKind) (id : RunId) :
    (r.begin kind).1.stage? id =
      if id = r.runs.length then some (entry kind) else r.stage? id := by
  unfold stage?
  rw [getElem?_runs_begin]
  split <;> rfl

theorem kindOf_begin (r : Reconciler) (kind : RunKind) (id : RunId) :
    (r.begin kind).1.kindOf id = if id = r.runs.length then kind else r.kindOf id := by
  unfold kindOf
  rw [getElem?_runs_begin]
  by_cases hid : id = r.runs.length
  · rw [if_pos hid, if_pos hid]
  · rw [if_neg hid, if_neg hid]

/-!
## Idle steps

Most steps leave the directory as it is and take no run on to its connects.
-/

structure Idle (r r' : Reconciler) : Prop where
  directory : r'.directory = r.directory
  connecting : forall id current plan attempts,
    r'.stage? id = some (.connecting current plan attempts) ->
      r.stage? id = some (.connecting current plan attempts)

theorem Idle.refl (r : Reconciler) : Idle r r :=
  ⟨rfl, fun _ _ _ _ h => h⟩

theorem idle_setStage (r : Reconciler) (id : RunId) {stage : RunStage}
    (hstage : forall current plan attempts, stage ≠ .connecting current plan attempts) :
    Idle r (r.setStage id stage) := by
  constructor
  · rfl
  · intro other current plan attempts h
    by_cases hid : id = other
    · subst hid
      exact absurd (eq_of_stage?_setStage_self h).symm (hstage current plan attempts)
    · rw [stage?_setStage_ne r hid] at h
      exact h

theorem idle_registered (r : Reconciler) (address : Address)
    (answer : Except ClusterError Unit) : Idle r (r.registered address answer).1 := by
  cases answer with
  | error _ => exact Idle.refl r
  | ok _ => exact ⟨rfl, fun _ _ _ _ h => h⟩

theorem idle_begin (r : Reconciler) (kind : RunKind) : Idle r (r.begin kind).1 := by
  constructor
  · cases kind with
    | serial => rfl
    | bare => rfl
  · intro id current plan attempts h
    rw [stage?_begin] at h
    split at h
    · cases kind with
      | serial => cases h
      | bare => cases h
    · exact h

theorem idle_starts (r : Reconciler) (id : RunId) (rest : List RunId) :
    Idle r { r.setStage id .querying with holder := some id, queue := rest } := by
  have hset : Idle r (r.setStage id .querying) := idle_setStage r id (by simp)
  exact ⟨rfl, hset.connecting⟩

theorem idle_conclude (r : Reconciler) (id : RunId) (result : Except ClusterError RunOutcome) :
    Idle r (r.conclude id result) := by
  have hset : Idle r (r.setStage id (.finished result)) := idle_setStage r id (by simp)
  constructor
  · exact directory_conclude r id result
  · intro other current plan attempts h
    rw [stage?_conclude] at h
    exact hset.connecting other current plan attempts h

theorem idle_abandon (r : Reconciler) (id : RunId) : Idle r (r.abandon id) := by
  unfold abandon
  split
  · exact Idle.refl r
  · have hset : Idle r (r.setStage id .abandoned) := idle_setStage r id (by simp)
    constructor
    · exact directory_releaseLock _ id
    · intro other current plan attempts h
      have hstage : ((r.setStage id .abandoned).releaseLock id).stage? other =
          some (.connecting current plan attempts) := h
      rw [stage?_releaseLock] at hstage
      exact hset.connecting other current plan attempts hstage

/-!
## Effects of a step

A run asks for the peers that it connects, under their addresses.
-/

theorem isNotice_fail (r : Reconciler) (id : RunId) (error : ClusterError) :
    forall e, e ∈ (r.fail id error).2 -> e.IsNotice := by
  unfold fail
  cases r.kindOf id with
  | bare => simp
  | serial => simp [Effect.IsNotice]

theorem isNotice_succeed (r : Reconciler) (id : RunId) (outcome : RunOutcome) :
    forall e, e ∈ (r.succeed id outcome).2 -> e.IsNotice := by
  unfold succeed
  cases r.kindOf id with
  | bare => simp
  | serial => simp [Effect.IsNotice]

theorem isNotice_registered (r : Reconciler) (address : Address)
    (answer : Except ClusterError Unit) :
    forall e, e ∈ (r.registered address answer).2 -> e.IsNotice := by
  unfold registered
  cases answer with
  | error _ => simp [Effect.IsNotice]
  | ok _ => simp [Effect.IsNotice]

theorem isNotice_begin (r : Reconciler) (kind : RunKind) :
    forall e, e ∈ (r.begin kind).2 -> e.IsNotice := by
  cases kind with
  | serial => simp [begin]
  | bare => simp [begin, Effect.IsNotice]

def warnings (d : Directory) (attempts : List Attempt) : List Effect :=
  attempts.filterMap fun a => a.warning? d

theorem isNotice_warnings (d : Directory) (attempts : List Attempt) :
    forall e, e ∈ warnings d attempts -> e.IsNotice := by
  intro e he
  rcases List.mem_filterMap.mp he with ⟨a, _, ha⟩
  unfold Attempt.warning? at ha
  split at ha
  · cases ha
    exact True.intro
  · cases ha

theorem exists_of_mem_asks {d : Directory} {id : RunId} {peers : List PeerId} {e : Effect}
    (h : e ∈ asks d id peers) :
    exists attempt peer p, peer ∈ peers ∧ d.peer? peer = some p ∧
      e = Effect.ask id attempt peer p.address := by
  rcases List.mem_filterMap.mp h with ⟨⟨peer, attempt⟩, hmem, hask⟩
  rcases Option.map_eq_some_iff.mp hask with ⟨p, hp, rfl⟩
  exact ⟨attempt, peer, p, List.fst_mem_of_mem_zipIdx hmem, hp, rfl⟩

theorem replay_asks (d d' : Directory) (id : RunId) (peers : List PeerId) :
    d'.replay (asks d id peers) = d' := by
  have hstill : forall e, e ∈ asks d id peers -> forall t : Directory, t.record e = t := by
    intro e he t
    rcases exists_of_mem_asks he with ⟨_, _, _, _, _, rfl⟩
    rfl
  generalize asks d id peers = effects at hstill
  induction effects with
  | nil => rfl
  | cons e rest ih =>
      rw [Directory.replay_cons, hstill e List.mem_cons_self]
      exact ih fun e' he' => hstill e' (List.mem_cons_of_mem e he')

/-!
## The end of a run
-/

def leaving (d : Directory) (current next : List PeerId) : List PeerId :=
  (Topology.superseded current next).filter d.isRemote

/-- A new list is published and the remotes that it leaves out are closed. -/
def replaced (r : Reconciler) (current next : List PeerId) : Reconciler :=
  { r with directory :=
      closeAll (r.directory.publish next) (leaving r.directory current next) }

theorem complete_keep (r : Reconciler) (id : RunId) (current : List PeerId)
    (attempts : List Attempt) :
    r.complete id current .keep attempts =
      (r.conclude id (.ok .unchanged),
        warnings r.directory attempts ++ (r.succeed id .unchanged).2) := by
  rw [← succeed_fst]
  rfl

theorem complete_replace (r : Reconciler) (id : RunId) (current next : List PeerId)
    (created kept : Nat) (attempts : List Attempt) :
    r.complete id current (.replace next created kept) attempts =
      ((r.replaced current next).conclude id
          (.ok (.rebuilt created kept (leaving r.directory current next).length)),
        warnings r.directory attempts ++ [.published next] ++
          (leaving r.directory current next).map Effect.closed ++
          ((r.replaced current next).succeed id
            (.rebuilt created kept (leaving r.directory current next).length)).2) := by
  rw [← succeed_fst]
  rfl

/-!
## The answer to a query

The next list takes over peers of the published one or uses new numbers.
-/

def sizeOf (r : Reconciler) (queried : List Address) : Effect :=
  sizeGauge (Topology.normalize r.selfAddress queried)

def fresh (r : Reconciler) (queried : List Address) : List Peer :=
  (Topology.newcomers r.directory r.directory.published
    (Topology.normalize r.selfAddress queried)).map Peer.ofAddress

/-- The peers of the next list are there, and the list is not published yet. -/
def drafted (r : Reconciler) (queried : List Address) : Reconciler :=
  { r with directory := { r.directory with peers := r.directory.peers ++ r.fresh queried } }

def nextOf (r : Reconciler) (queried : List Address) : List PeerId :=
  Topology.numbers r.directory r.directory.published r.directory.peers.length
    (Topology.normalize r.selfAddress queried)

def planOf (r : Reconciler) (queried : List Address) : Plan :=
  .replace (r.nextOf queried)
    (Topology.newcomers r.directory r.directory.published
      (Topology.normalize r.selfAddress queried)).length
    (Topology.stayers r.directory r.directory.published
      (Topology.normalize r.selfAddress queried)).length

variable {r : Reconciler} {queried : List Address}

theorem mem_nextOf {id : PeerId} (h : id ∈ r.nextOf queried) :
    id ∈ r.directory.published ∨ r.directory.peers.length ≤ id :=
  Topology.mem_numbers h

theorem lists_nextOf :
    Topology.Lists (r.drafted queried).directory (r.nextOf queried)
      (Topology.normalize r.selfAddress queried) :=
  Topology.lists_numbers (Directory.grows_append _ _) rfl

/-!
## The answer of a connector
-/

def connected (r : Reconciler) (peer : PeerId) (answer : Except ClusterError Channel) :
    Reconciler :=
  { r with directory := r.directory.modify peer fun p => (p.finishConnect answer).1 }

end Reconciler
end ClusterNode
