import ClusterNode.Proofs.Reconciler.Parallel
import ClusterNode.Proofs.Reconciler.Report

/-!
# Connects and topology

A reconciler hears that this node has been registered and how the queries of its runs are answered.
The answers of connectors change links and nothing else. Two reconcilers that hear the same number
their peers alike, and each run does the same to the topology in both of them, however its connects
go and however long they take.
-/

namespace ClusterNode

/-- All runs take the lock, and none is dropped. -/
def Event.IsPatient : Event -> Prop
  | begun kind => kind = RunKind.serial
  | dropped _ => False
  | _ => True

theorem Event.IsPatient.takesLock {event : Event} (h : event.IsPatient) : event.TakesLock := by
  cases event with
  | begun kind => exact h
  | _ => exact True.intro

/-!
## Faces

The face of a peer is what it is without its link. Answers of connectors and closes leave all faces
as they are.
-/

def Peer.face (p : Peer) : Address × Bool := (p.address, p.isSelf)

theorem Peer.LeadsTo.face_eq {p q : Peer} (h : p.LeadsTo q) : q.face = p.face := by
  unfold face
  rw [h.left, h.isSelf_eq]

namespace Directory

def faces (d : Directory) : List (Address × Bool) := d.peers.map Peer.face

theorem faces_modify {f : Peer -> Peer} (hf : forall p : Peer, p.LeadsTo (f p)) (d : Directory)
    (id : PeerId) : (d.modify id f).faces = d.faces := by
  unfold faces modify
  apply List.ext_getElem?
  intro n
  rw [List.getElem?_map, List.getElem?_map, List.getElem?_modify]
  cases d.peers[n]? with
  | none => rfl
  | some p =>
      by_cases hn : id = n
      · simp [hn, (hf p).face_eq]
      · simp [hn]

theorem faces_closeAll (d : Directory) (ids : List PeerId) :
    (Reconciler.closeAll d ids).faces = d.faces := by
  induction ids generalizing d with
  | nil => rfl
  | cons id rest ih => exact (ih (d.close id)).trans (faces_modify Peer.leadsTo_close d id)

theorem faces_append (d : Directory) (more : List Peer) :
    faces { d with peers := d.peers ++ more } = d.faces ++ more.map Peer.face :=
  List.map_append

variable {d d' : Directory} {ids ids' : List PeerId}

theorem twins_of_faces_eq (h : d'.faces = d.faces) (old : Nat)
    (hknown : forall id, id ∈ ids -> id < d.peers.length) : Twins old d d' ids ids := by
  apply List.forall₂_same.mpr
  intro n hn
  rcases exists_peer?_of_lt (hknown n hn) with ⟨p, hp⟩
  have hface : (d'.peers[n]?).map Peer.face = (d.peers[n]?).map Peer.face := by
    rw [← List.getElem?_map, ← List.getElem?_map]
    exact congrArg (fun faces => faces[n]?) h
  have hp' : d.peers[n]? = some p := hp
  rw [hp'] at hface
  rcases Option.map_eq_some_iff.mp hface with ⟨q, hq, hqp⟩
  exact ⟨Or.inl rfl, p, q, hp, hq, congrArg Prod.fst hqp, congrArg Prod.snd hqp⟩

end Directory

/-!
## Twins under all numbers

If no number counts as new, twins are the same.
-/

section Twins

variable {d d' : Directory} {n m : PeerId} {ids ids' : List PeerId}

theorem Twin.eq (h : Twin d.peers.length d d' n m) : m = n := by
  rcases h with ⟨rfl | ⟨hn, _⟩, p, _, hp, _⟩
  · rfl
  · exact absurd (Directory.lt_length_of_peer? hp) (Nat.not_lt_of_le hn)

theorem Twins.eq (h : Twins d.peers.length d d' ids ids') : ids' = ids := by
  induction h with
  | nil => rfl
  | cons hhead _ ih => rw [hhead.eq, ih]

theorem Plan.Alike.eq {plan plan' : Plan} (h : Plan.Alike d.peers.length d d' plan plan') :
    plan' = plan := by
  cases h with
  | keep => rfl
  | replace created kept htwins => rw [Twins.eq htwins]

theorem Effect.Alike.eq {e e' : Effect} (h : Effect.Alike d.peers.length d d' e e') : e' = e := by
  cases h with
  | published htwins => rw [Twins.eq htwins]
  | closed htwin => rw [htwin.eq]

end Twins

namespace Reconciler

variable {r r' : Reconciler} {id : RunId} {event : Event} {effects : List Effect}
  {current : List PeerId} {plan : Plan} {d : Directory} {history : List Event} {s : RunStage}

section Same

variable (h : forall old, Alike old r r') (hlisted : r.Listed) (hlisted' : r'.Listed)

include h hlisted hlisted'

theorem prelude_congr (queried : List Address) : r'.prelude queried = r.prelude queried := by
  have hconfirms := (h 0).confirms_eq queried
  have hsize : r'.sizeOf queried = r.sizeOf queried := by
    unfold sizeOf
    rw [(h 0).self]
  by_cases hkeeps : r.confirms queried = true
  · rw [prelude_of_confirms hkeeps, prelude_of_confirms (hconfirms.trans hkeeps), hsize]
  · rw [prelude_of_not_confirms hlisted.known hkeeps,
      prelude_of_not_confirms hlisted'.known (hconfirms ▸ hkeeps), hsize]
    unfold fresh
    rw [(h 0).self, Topology.newcomers_congr (h 0).twins]

theorem faces_staged_congr (hfaces : r'.directory.faces = r.directory.faces)
    (queried : List Address) : (r'.staged queried).faces = (r.staged queried).faces := by
  have hconfirms := (h 0).confirms_eq queried
  by_cases hkeeps : r.confirms queried = true
  · rw [staged_of_confirms hkeeps, staged_of_confirms (hconfirms.trans hkeeps), hfaces]
  · rw [staged_of_not_confirms hlisted.known hkeeps,
      staged_of_not_confirms hlisted'.known (hconfirms ▸ hkeeps)]
    unfold drafted fresh
    rw [Directory.faces_append, Directory.faces_append, hfaces, (h 0).self,
      Topology.newcomers_congr (h 0).twins]

theorem decision_congr (queried : List Address) : r'.decision queried = r.decision queried :=
  ((h _).decision_alike hlisted hlisted' queried).eq

theorem accountOf_congr (requireSelf : Bool) (queried : List Address) :
    accountOf requireSelf r' queried = accountOf requireSelf r queried := by
  have hcommits : r'.commitsOf queried = r.commitsOf queried := by
    have halike := ((h _).commitsOf_alike hlisted hlisted' queried).imp
      fun _ _ heffect => heffect.eq.symm
    exact (List.forall₂_eq_eq_eq ▸ halike).symm
  unfold accountOf
  rw [prelude_congr h hlisted hlisted' queried, hcommits, (h 0).self]

end Same

/-!
## The outlook
-/

/-- The run is at its connects and will carry out this plan. -/
def Connects (r : Reconciler) (id : RunId) (plan : Plan) : Prop :=
  exists current attempts, r.stage? id = some (.connecting current plan attempts)

/-- The list in the making: that of the run at its connects, or else the published one. -/
def target (r : Reconciler) : List PeerId :=
  match r.holder.bind r.stage? with
  | some (.connecting _ plan _) => plan.list r.directory.published
  | _ => r.directory.published

/-- What connects leave as it is. -/
structure Outlook where
  self : Option Address
  faces : List (Address × Bool)
  target : List PeerId

def outlook (r : Reconciler) : Outlook :=
  { self := r.selfAddress, faces := r.directory.faces, target := r.target }

theorem Orderly.withDirectory (h : r.Orderly) (d : Directory) :
    { r with directory := d }.Orderly :=
  ⟨h.serial, h.single, h.queued, h.nodup⟩

theorem Orderly.target_eq (h : r.Orderly) (hconnects : r.Connects id plan) :
    r.target = plan.list r.directory.published := by
  rcases hconnects with ⟨current, attempts, hs⟩
  unfold target
  rw [h.single id _ hs True.intro, Option.bind_some, hs]

theorem target_eq_of_idle (h : forall id plan, ¬r.Connects id plan) :
    r.target = r.directory.published := by
  unfold target
  split
  · rename_i current plan attempts hstage
    rcases Option.bind_eq_some_iff.mp hstage with ⟨id, _, hs⟩
    exact absurd ⟨current, attempts, hs⟩ (h id plan)
  · rfl

theorem Orderly.target_congr (h : r.Orderly) (h' : r'.Orderly)
    (hpublished : r'.directory.published = r.directory.published)
    (hconnects : forall id plan, r'.Connects id plan <-> r.Connects id plan) :
    r'.target = r.target := by
  by_cases hsome : exists id plan, r.Connects id plan
  · rcases hsome with ⟨id, plan, hplan⟩
    rw [h.target_eq hplan, h'.target_eq ((hconnects id plan).mpr hplan), hpublished]
  · have hnone : forall id plan, ¬r.Connects id plan :=
      fun id plan hplan => hsome ⟨id, plan, hplan⟩
    rw [target_eq_of_idle hnone, target_eq_of_idle fun id plan => hnone id plan ∘
      (hconnects id plan).mp, hpublished]

theorem Orderly.eq_of_connects (h : r.Orderly) (hs : r.stage? id = some s) (hactive : s.IsActive)
    {other : RunId} (hconnects : r.Connects other plan) : other = id := by
  rcases hconnects with ⟨current, attempts, hother⟩
  exact h.eq_of_isActive hs hactive hother True.intro

theorem not_connects (hs : r.stage? id = some s)
    (hnot : forall current attempts, s ≠ .connecting current plan attempts) :
    ¬r.Connects id plan := by
  rintro ⟨current, attempts, hconnecting⟩
  rw [hs] at hconnecting
  exact hnot current attempts (Option.some.inj hconnecting)

theorem Orderly.target_of_querying (h : r.Orderly) (hs : r.stage? id = some .querying) :
    r.target = r.directory.published := by
  apply target_eq_of_idle
  intro other plan hconnects
  rw [h.eq_of_connects hs True.intro hconnects] at hconnects
  exact not_connects hs (by simp) hconnects

/-!
## Runs that go on

A run that goes to its connects, or on with them, has its list in the making. One that comes to its
end leaves the list that it was about to publish.
-/

theorem outlook_connecting (h : r.Orderly) (hs : r.stage? id = some s) (hactive : s.IsActive)
    (current : List PeerId) (plan : Plan) (attempts : List Attempt) :
    (r.setStage id (.connecting current plan attempts)).outlook =
      { self := r.selfAddress, faces := r.directory.faces
        target := plan.list r.directory.published } := by
  have htarget : (r.setStage id (.connecting current plan attempts)).target =
      plan.list r.directory.published := by
    unfold target
    rw [holder_setStage, h.single id s hs hactive, Option.bind_some, stage?_setStage_self hs]
    rfl
  unfold outlook
  rw [htarget]
  rfl

theorem outlook_complete (h : r.Orderly) (hs : r.stage? id = some s) (hactive : s.IsActive)
    (current : List PeerId) (plan : Plan) (attempts : List Attempt) :
    (r.complete id current plan attempts).1.outlook =
      { self := r.selfAddress, faces := r.directory.faces
        target := plan.list r.directory.published } := by
  have hidle : forall other plan',
      ¬(r.complete id current plan attempts).1.Connects other plan' := by
    rintro other plan' ⟨current', attempts', hother⟩
    rw [stage?_complete] at hother
    by_cases hid : id = other
    · subst hid
      cases eq_of_stage?_setStage_self hother
    · rw [stage?_setStage_ne r hid] at hother
      exact hid (h.eq_of_connects hs hactive ⟨current', attempts', hother⟩).symm
  unfold outlook
  rw [target_eq_of_idle hidle, complete_eq, selfAddress_conclude, directory_conclude]
  cases plan with
  | keep => rfl
  | replace next created kept =>
      have hfaces := Directory.faces_closeAll (r.directory.publish next)
        (leaving r.directory current next)
      have hpublished := published_closeAll (r.directory.publish next)
        (leaving r.directory current next)
      unfold carriedOut replaced
      rw [hfaces, hpublished]
      rfl

theorem outlook_told (h : r.Orderly) (hs : r.stage? id = some .querying)
    (hlisted : r.Listed) (queried : List Address) :
    (r.step (.answered id (.ok queried))).1.outlook =
      { self := r.selfAddress, faces := (r.staged queried).faces
        target := (r.decision queried).list r.directory.published } := by
  have hpublished : (r.staged queried).published = r.directory.published :=
    (Opening.told queried hs).published_eq hlisted.known
  have h' : { r with directory := r.staged queried }.Orderly := h.withDirectory _
  have hs' : { r with directory := r.staged queried }.stage? id = some .querying := hs
  show (r.answer id (.ok queried)).1.outlook = _
  rw [answer_told hs, ← hpublished]
  unfold connect
  split
  · exact outlook_complete h' hs' True.intro _ _ _
  · exact outlook_connecting h' hs' True.intro _ _ _

/-!
## Steps

The answer of a connector is for a link only, and the other runs stay where they are. So a step of
a run changes the outlook only if the run is told of addresses, or is dropped at its connects.
-/

theorem connects_iff_of_frame
    (hframe : forall other, id ≠ other -> r'.stage? other = r.stage? other)
    (hself : forall plan, r'.Connects id plan <-> r.Connects id plan)
    (other : RunId) (plan : Plan) :
    r'.Connects other plan <-> r.Connects other plan := by
  by_cases hid : id = other
  · subst hid
    exact hself plan
  · unfold Connects
    rw [hframe other hid]

theorem Turn.outlook_of_idle (h : Turn r id event r' effects) (horderly : r.Orderly)
    (horderly' : r'.Orderly) (hdirectory : r'.directory = r.directory)
    (hbefore : forall plan, ¬r.Connects id plan) (hafter : forall plan, ¬r'.Connects id plan) :
    r'.outlook = r.outlook := by
  have htarget := horderly.target_congr horderly' (congrArg Directory.published hdirectory)
    (connects_iff_of_frame (fun _ hne => h.stage?_eq hne)
      fun plan => iff_of_false (hafter plan) (hbefore plan))
  unfold outlook
  rw [h.selfAddress_eq, hdirectory, htarget]

theorem outlook_heard (h : r.Orderly) {attempts : List Attempt}
    (hs : r.stage? id = some (.connecting current plan attempts)) (peer : PeerId)
    (answer : Except ClusterError Channel) :
    { self := r.selfAddress, faces := (r.connected peer answer).directory.faces
      target := plan.list (r.connected peer answer).directory.published } = r.outlook := by
  have hfaces : (r.connected peer answer).directory.faces = r.directory.faces :=
    Directory.faces_modify (fun p => Peer.leadsTo_finishConnect p answer) r.directory peer
  unfold outlook
  rw [hfaces, h.target_eq ⟨current, attempts, hs⟩]
  rfl

theorem Turn.outlook_eq (h : Turn r id event r' effects) (horderly : r.Orderly)
    (horderly' : r'.Orderly) (hpatient : event.IsPatient)
    (hdeaf : forall queried, event = .answered id (.ok queried) -> r.stage? id ≠ some .querying) :
    r'.outlook = r.outlook := by
  have hturn := h
  cases h with
  | rests _ => rfl
  | enters kind hid =>
      apply hturn.outlook_of_idle horderly horderly' (idle_begin r kind).directory
      · intro plan hconnects
        rcases hconnects with ⟨_, _, hs⟩
        rw [← hid] at hs
        simp [stage?] at hs
      · intro plan hconnects
        rcases hconnects with ⟨_, _, hs⟩
        rw [stage?_begin, if_pos hid.symm] at hs
        cases kind with
        | serial => cases hs
        | bare => cases hs
  | starts _ _ hqueue =>
      have hwaiting := horderly.queued id (hqueue ▸ List.mem_cons_self)
      apply hturn.outlook_of_idle horderly horderly' rfl
      · intro plan
        exact not_connects hwaiting (by simp)
      · intro plan
        exact not_connects (stage?_setStage_self hwaiting .querying) (by simp)
  | fails e hquerying =>
      apply hturn.outlook_of_idle horderly horderly' (directory_conclude r id _)
      · intro plan
        exact not_connects hquerying (by simp)
      · intro plan hconnects
        rcases hconnects with ⟨_, _, hs⟩
        rw [stage?_conclude] at hs
        cases eq_of_stage?_setStage_self hs
  | @goes _ current plan d _ _ attempts hopening _ _ =>
      cases hopening with
      | told queried hquerying => exact absurd hquerying (hdeaf queried rfl)
      | @heard _ answer peer _ _ _ hconnecting _ =>
          have hheard : (r.connected peer answer).Orderly := horderly.withDirectory _
          exact (outlook_connecting hheard hconnecting True.intro current plan attempts).trans
            (outlook_heard horderly hconnecting peer answer)
  | @ends _ current plan d _ attempts hopening =>
      cases hopening with
      | told queried hquerying => exact absurd hquerying (hdeaf queried rfl)
      | @heard _ answer peer _ _ _ hconnecting _ =>
          have hheard : (r.connected peer answer).Orderly := horderly.withDirectory _
          exact (outlook_complete hheard hconnecting True.intro current plan attempts).trans
            (outlook_heard horderly hconnecting peer answer)
  | leaves _ _ => exact hpatient.elim

/-!
## What is heard

News of the cluster come when this node has been registered or a query has been answered, and the
script of a history lists them in order. A step without news leaves the outlook as it is, a query
that fails does so too, and the same news lead to the same outlook.
-/

def hears (r : Reconciler) : Event -> Bool
  | .registered _ _ => true
  | .answered run _ =>
      match r.stage? run with
      | some .querying => true
      | _ => false
  | _ => false

def script (r : Reconciler) : List Event -> List Event
  | [] => []
  | event :: rest => (if r.hears event then [event] else []) ++ script (r.step event).1 rest

theorem hears_answered_iff {answer : Except ClusterError (List Address)} :
    r.hears (.answered id answer) = true <-> r.stage? id = some .querying := by
  dsimp only [hears]
  split
  · rename_i hs
    exact iff_of_true rfl hs
  · rename_i hnot
    exact iff_of_false Bool.false_ne_true hnot

theorem script_append (r : Reconciler) (a b : List Event) :
    r.script (a ++ b) = r.script a ++ (r.after a).script b := by
  induction a generalizing r with
  | nil => rfl
  | cons event rest ih =>
      show _ ++ (r.step event).1.script (rest ++ b) = _
      rw [ih, ← List.append_assoc]
      rfl

theorem exists_of_script_eq {a b : List Event} (h : r.script history = a ++ event :: b) :
    exists before later, history = before ++ event :: later ∧ r.script before = a ∧
      (r.after before).hears event = true ∧ ((r.after before).step event).1.script later = b := by
  induction history generalizing r a with
  | nil => cases (List.append_eq_nil_iff.mp h.symm).right
  | cons first rest ih =>
      rw [script] at h
      by_cases hfirst : r.hears first = true
      · rw [if_pos hfirst] at h
        cases a with
        | nil =>
            cases h
            exact ⟨[], rest, rfl, rfl, hfirst, rfl⟩
        | cons _ a =>
            rcases List.cons.inj h with ⟨rfl, hrest⟩
            rcases ih hrest with ⟨before, later, rfl, hscript, hhears⟩
            refine ⟨first :: before, later, rfl, ?_, hhears⟩
            rw [script, if_pos hfirst, hscript]
            rfl
      · rw [if_neg hfirst] at h
        rcases ih h with ⟨before, later, rfl, hscript, hhears⟩
        refine ⟨first :: before, later, rfl, ?_, hhears⟩
        rw [script, if_neg hfirst, hscript]
        rfl

theorem Answered.of_script_eq {history' before : List Event}
    {answer : Except ClusterError (List Address)}
    (hscript : r.script history' = r.script history) (h : Answered r history id before answer) :
    exists before', Answered r history' id before' answer ∧ r.script before' = r.script before := by
  rcases h with ⟨⟨later, rfl⟩, hs⟩
  rw [script_append, script, if_pos (hears_answered_iff.mpr hs)] at hscript
  rcases exists_of_script_eq hscript with ⟨before', later', rfl, hbefore, hhears, _⟩
  exact ⟨before', ⟨⟨later', rfl⟩, hears_answered_iff.mp hhears⟩, hbefore⟩

/-- A step that brings no news does not change the outlook. -/
theorem outlook_step (horderly : r.Orderly) (hpatient : event.IsPatient)
    (hdeaf : ¬r.hears event = true) : (r.step event).1.outlook = r.outlook := by
  cases howner : r.owner? event with
  | some id =>
      apply (turn_step howner).outlook_eq horderly (horderly.step hpatient.takesLock) hpatient
      rintro queried rfl hs
      exact hdeaf (hears_answered_iff.mpr hs)
  | none =>
      have haside := aside_step howner
      generalize (r.step event).1 = r', (r.step event).2 = effects at haside
      cases haside with
      | registers address answer => exact absurd rfl hdeaf
      | rests => rfl
      | closes peer =>
          have hfaces := Directory.faces_modify Peer.leadsTo_close r.directory peer
          show Outlook.mk r.selfAddress (r.directory.close peer).faces r.target = _
          unfold Directory.close
          rw [hfaces]
          rfl

theorem outlook_failed (horderly : r.Orderly) (id : RunId) (e : ClusterError) :
    (r.step (.answered id (.error e))).1.outlook = r.outlook := by
  have horderly' : (r.step (.answered id (.error e))).1.Orderly := horderly.step True.intro
  exact (turn_answer r id (.error e)).outlook_eq horderly horderly' True.intro (by simp)

section Same

variable (horderly : r.Orderly) (horderly' : r'.Orderly) (hlisted : r.Listed)
  (hlisted' : r'.Listed) (houtlook : r'.outlook = r.outlook)

include horderly horderly' houtlook

theorem published_of_outlook_eq {id' : RunId} (hs : r.stage? id = some .querying)
    (hs' : r'.stage? id' = some .querying) :
    r'.directory.published = r.directory.published := by
  rw [← horderly.target_of_querying hs, ← horderly'.target_of_querying hs']
  exact congrArg Outlook.target houtlook

include hlisted

theorem alike_of_outlook_eq {id' : RunId} (hs : r.stage? id = some .querying)
    (hs' : r'.stage? id' = some .querying) (old : Nat) : Alike old r r' := by
  have hfaces : r'.directory.faces = r.directory.faces := congrArg Outlook.faces houtlook
  refine ⟨congrArg Outlook.self houtlook, ?_, Or.inl ?_⟩
  · rw [published_of_outlook_eq horderly horderly' houtlook hs hs']
    exact Directory.twins_of_faces_eq hfaces old hlisted.known
  · simpa [Directory.faces] using (congrArg List.length hfaces).symm

include hlisted'

theorem outlook_step_congr (hsettings : r'.settings = r.settings) (hhears : r.hears event = true)
    (hhears' : r'.hears event = true) :
    (r'.step event).1.outlook = (r.step event).1.outlook := by
  cases event with
  | registered address answer =>
      have hannounced : r'.announced address = r.announced address := by
        unfold announced
        rw [show r'.internalAddress = r.internalAddress from congrArg Prod.fst hsettings]
      cases answer with
      | error e => exact houtlook
      | ok _ =>
          show { r'.outlook with self := some (r'.announced address) } =
            { r.outlook with self := some (r.announced address) }
          rw [houtlook, hannounced]
  | answered run answer =>
      have hs := hears_answered_iff.mp hhears
      have hs' := hears_answered_iff.mp hhears'
      cases answer with
      | error e =>
          rw [outlook_failed horderly, outlook_failed horderly', houtlook]
      | ok queried =>
          have halike := alike_of_outlook_eq horderly horderly' hlisted houtlook hs hs'
          have hself : r'.selfAddress = r.selfAddress := congrArg Outlook.self houtlook
          have hfaces := faces_staged_congr halike hlisted hlisted'
            (congrArg Outlook.faces houtlook) queried
          rw [outlook_told horderly hs hlisted, outlook_told horderly' hs' hlisted', hself, hfaces,
            decision_congr halike hlisted hlisted' queried,
            published_of_outlook_eq horderly horderly' houtlook hs hs']
  | begun _ => cases hhears
  | granted => cases hhears
  | replied _ _ _ => cases hhears
  | dropped _ => cases hhears
  | closed _ => cases hhears

end Same

/-!
## Histories with the same script

The induction is on the script: between two news the outlook stays, and each of the news takes both
histories to the same outlook.
-/

theorem outlook_after_of_silent (horderly : r.Orderly)
    (hpatient : forall event, event ∈ history -> event.IsPatient)
    (hsilent : r.script history = []) : (r.after history).outlook = r.outlook := by
  induction history generalizing r with
  | nil => rfl
  | cons event rest ih =>
      rcases List.append_eq_nil_iff.mp hsilent with ⟨hfirst, hrest⟩
      have hevent := hpatient event List.mem_cons_self
      have hdeaf : ¬r.hears event = true := by
        intro hhears
        rw [if_pos hhears] at hfirst
        cases hfirst
      have hrest' := ih (horderly.step hevent.takesLock)
        (fun e he => hpatient e (List.mem_cons_of_mem event he)) hrest
      exact hrest'.trans (outlook_step horderly hevent hdeaf)

theorem Orderly.run_of_patient (h : r.Orderly)
    (hpatient : forall event, event ∈ history -> event.IsPatient) : (r.after history).Orderly :=
  h.run fun event hevent => (hpatient event hevent).takesLock

section Run

variable (horderly : r.Orderly) (hrooted : r.Rooted) (hnew : r.runs = []) (hlisted : r.Listed)
  {history' : List Event} (hpatient : forall event, event ∈ history -> event.IsPatient)
  (hpatient' : forall event, event ∈ history' -> event.IsPatient)

include horderly hpatient

theorem outlook_after_news {before later : List Event}
    (hsplit : history = before ++ event :: later)
    (hsilent : ((r.after before).step event).1.script later = []) :
    (r.after history).outlook = ((r.after before).step event).1.outlook := by
  subst hsplit
  rw [List.append_cons, after_append, after_concat]
  apply outlook_after_of_silent _ _ hsilent
  · have hbefore : (r.after before).Orderly :=
      horderly.run_of_patient fun e he => hpatient e (List.mem_append_left _ he)
    exact hbefore.step (hpatient event (by simp)).takesLock
  · intro e he
    exact hpatient e (List.mem_append_right _ (List.mem_cons_of_mem event he))

include hrooted hnew hlisted hpatient'

/-- Histories in which the same is heard lead to the same outlook. -/
theorem outlook_after_congr (hscript : r.script history' = r.script history) :
    (r.after history').outlook = (r.after history).outlook := by
  -- The induction is on the news: before and after each of them both outlooks stand still.
  generalize hnews : r.script history = news at hscript
  induction news using List.reverseRecOn generalizing history history' with
  | nil =>
      rw [outlook_after_of_silent horderly hpatient hnews,
        outlook_after_of_silent horderly hpatient' hscript]
  | append_singleton news event ih =>
      rcases exists_of_script_eq hnews with ⟨before, later, rfl, hbefore, hhears, hsilent⟩
      rcases exists_of_script_eq hscript with ⟨before', later', rfl, hbefore', hhears', hsilent'⟩
      have hearlier : forall e, e ∈ before -> e.IsPatient :=
        fun e he => hpatient e (List.mem_append_left _ he)
      have hearlier' : forall e, e ∈ before' -> e.IsPatient :=
        fun e he => hpatient' e (List.mem_append_left _ he)
      have hsettings : (r.after before').settings = (r.after before).settings :=
        (settings_after r before').trans (settings_after r before).symm
      rw [outlook_after_news horderly hpatient rfl hsilent,
        outlook_after_news horderly hpatient' rfl hsilent']
      exact outlook_step_congr (horderly.run_of_patient hearlier)
        (horderly.run_of_patient hearlier')
        (listed_after horderly.locked hrooted hnew hlisted before)
        (listed_after horderly.locked hrooted hnew hlisted before')
        (ih hearlier hearlier' hbefore hbefore') hsettings hhears hhears'

theorem Told.account_congr {before before' : List Event} {queried : List Address}
    (htold : Told r history id before queried) (htold' : Told r history' id before' queried)
    (hscript : r.script before' = r.script before) (requireSelf : Bool) :
    (r.after before').outcomeOf queried = (r.after before).outcomeOf queried ∧
      accountOf requireSelf (r.after before') queried =
        accountOf requireSelf (r.after before) queried := by
  rcases htold with ⟨⟨later, rfl⟩, hs⟩
  rcases htold' with ⟨⟨later', rfl⟩, hs'⟩
  have hearlier : forall e, e ∈ before -> e.IsPatient :=
    fun e he => hpatient e (List.mem_append_left _ he)
  have hearlier' : forall e, e ∈ before' -> e.IsPatient :=
    fun e he => hpatient' e (List.mem_append_left _ he)
  have hl := listed_after horderly.locked hrooted hnew hlisted before
  have hl' := listed_after horderly.locked hrooted hnew hlisted before'
  have halike := alike_of_outlook_eq (horderly.run_of_patient hearlier)
    (horderly.run_of_patient hearlier') hl
    (outlook_after_congr horderly hrooted hnew hlisted hearlier hearlier' hscript) hs hs'
  exact ⟨(halike 0).outcomeOf_eq hl hl' queried, accountOf_congr halike hl hl' requireSelf queried⟩

end Run

/-!
## Runs of patient histories

A run that has been told of addresses is at its connects or has succeeded. If it has, the list
stands for these addresses until the next run succeeds.
-/

theorem Turn.stage?_ne_abandoned (h : Turn r id event r' effects) (hpatient : event.IsPatient)
    (hnot : r.stage? id ≠ some .abandoned) : r'.stage? id ≠ some .abandoned := by
  intro hs
  cases h with
  | rests _ => exact hnot hs
  | enters kind hid =>
      rw [stage?_begin, if_pos hid.symm] at hs
      cases kind with
      | serial => cases hs
      | bare => cases hs
  | starts _ _ _ => cases eq_of_stage?_setStage_self hs
  | fails e _ =>
      rw [stage?_conclude] at hs
      cases eq_of_stage?_setStage_self hs
  | goes _ _ _ _ => cases eq_of_stage?_setStage_self hs
  | ends _ _ _ =>
      rw [stage?_complete] at hs
      cases eq_of_stage?_setStage_self hs
  | leaves _ _ => exact hpatient

theorem stage?_ne_abandoned (hnew : r.runs = [])
    (hpatient : forall event, event ∈ history -> event.IsPatient) (id : RunId) :
    (r.after history).stage? id ≠ some .abandoned := by
  induction history using List.reverseRecOn with
  | nil =>
      intro hs
      cases (stage?_eq_none_of_nil hnew id).symm.trans hs
  | append_singleton history event ih =>
      have hold := ih fun e he => hpatient e (List.mem_append_left _ he)
      rw [after_concat]
      by_cases howner : (r.after history).owner? event = some id
      · exact (turn_step howner).stage?_ne_abandoned (hpatient event (by simp)) hold
      · rw [stage?_step_of_owner?_ne howner]
        exact hold

/-- A run that has been told of addresses is at its connects or has succeeded. -/
theorem Told.connects_or_succeeded (hlocked : r.Locked) (hnew : r.runs = [])
    (hpatient : forall event, event ∈ history -> event.IsPatient) {before : List Event}
    {queried : List Address} (htold : Told r history id before queried) :
    (exists plan, (r.after history).Connects id plan) ∨ (r.after history).Succeeded id := by
  have hnot := stage?_ne_abandoned hnew hpatient id
  rcases htold with ⟨⟨later, rfl⟩, hs⟩
  rcases beyondQuery_told hs queried with ⟨s, hstage, hbeyond⟩
  rcases beyondQuery_after ((hlocked.run before).step _) hstage hbeyond later with
    ⟨t, ht, hbeyond'⟩
  have hend : (r.after (before ++ .answered id (.ok queried) :: later)).stage? id = some t := by
    rw [after_append]
    exact ht
  cases t with
  | waiting => exact hbeyond'.elim
  | querying => exact hbeyond'.elim
  | connecting current plan attempts => exact Or.inl ⟨plan, current, attempts, hend⟩
  | finished result =>
      cases result with
      | error e => exact hbeyond'.elim
      | ok outcome => exact Or.inr ⟨outcome, hend⟩
  | abandoned => exact absurd hend hnot

theorem Succeeds.shows {requireSelf : Bool} (horderly : r.Orderly) (hrooted : r.Rooted)
    (hnew : r.runs = []) (hcheck : r.check = NodeHealth.check requireSelf)
    (hlock : forall event, event ∈ history -> event.TakesLock) (h : Succeeds r history event id)
    {later : List Event} (hlater : NoneSucceeds r (history ++ [event]) later) :
    exists before queried, Told r (history ++ [event]) id before queried ∧
      (r.after (history ++ event :: later)).Shows
        (Topology.normalize (r.after before).selfAddress queried) := by
  rcases h.exists_finishes with ⟨current, plan, d, opening, attempts, hopening, hafter, _⟩
  have htally := tally_after horderly.locked hrooted (stage?_eq_none_of_nil hnew id) history
  have haccounts := accounts_after horderly hrooted hnew hcheck hlock id
  rcases hopening.account hrooted htally haccounts with
    ⟨before, queried, htold, _, _, _, hlists, _⟩
  have hshows : (r.after (history ++ [event])).Shows
      (Topology.normalize (r.after before).selfAddress queried) := by
    rw [hafter]
    exact shows_complete hlists id current attempts
  refine ⟨before, queried, htold, ?_⟩
  have hsame := (hlater.same_list horderly.locked hrooted).left
  have hgrows := grows_after (hrooted.run (history ++ [event])) later
  rw [List.append_cons]
  unfold Shows
  rw [hsame, after_append]
  exact Topology.Lists.grows hshows hgrows

/-!
## The same topology
-/

theorem Answered.stage?_eq_of_error (hlocked : r.Locked) {before : List Event} {e : ClusterError}
    (h : Answered r history id before (.error e)) :
    (r.after history).stage? id = some (.finished (.error e)) := by
  rcases h with ⟨⟨later, rfl⟩, hs⟩
  have hfailed : ((r.after before).step (.answered id (.error e))).1.stage? id =
      some (.finished (.error e)) := stage?_answer_error hs e
  rw [after_append]
  exact stage?_after_of_isOver ((hlocked.run before).step _) hfailed rfl later

theorem same_end {requireSelf : Bool} {history' : List Event} (horderly : r.Orderly)
    (hrooted : r.Rooted) (hnew : r.runs = []) (hlisted : r.Listed)
    (hcheck : r.check = NodeHealth.check requireSelf)
    (hpatient : forall event, event ∈ history -> event.IsPatient)
    (hpatient' : forall event, event ∈ history' -> event.IsPatient)
    (hscript : r.script history' = r.script history) {result : Except ClusterError RunOutcome}
    (hend : (r.after history).stage? id = some (.finished result)) :
    (exists plan, (r.after history').Connects id plan) ∨
      (r.after history').stage? id = some (.finished result) ∧
        (r.share id history').filter Effect.isTopology =
          (r.share id history).filter Effect.isTopology := by
  have haccount := accounts_after horderly hrooted hnew hcheck
    (fun event hevent => (hpatient event hevent).takesLock) id _ hend
  have haccount' := accounts_after horderly hrooted hnew hcheck
    (fun event hevent => (hpatient' event hevent).takesLock) id
  cases result with
  | error e =>
      rcases haccount with ⟨before, hanswered, haccount⟩
      rcases hanswered.of_script_eq hscript with ⟨before', hanswered', _⟩
      have hend' := hanswered'.stage?_eq_of_error horderly.locked
      rcases haccount' _ hend' with ⟨_, _, haccount'⟩
      exact Or.inr ⟨hend', haccount'.trans haccount.symm⟩
  | ok outcome =>
      rcases haccount with ⟨before, queried, htold, houtcome, haccount⟩
      rcases Answered.of_script_eq hscript htold with ⟨before', htold', hbefore⟩
      rcases Told.connects_or_succeeded horderly.locked hnew hpatient' htold' with
        hconnects | ⟨outcome', hend'⟩
      · exact Or.inl hconnects
      · rcases haccount' _ hend' with ⟨earlier', _, htold'', houtcome', haccount'⟩
        rcases htold''.unique horderly.locked htold' with ⟨rfl, rfl⟩
        rcases Told.account_congr horderly hrooted hnew hlisted hpatient hpatient' htold htold'
          hbefore requireSelf with ⟨hsame, hsame'⟩
        rw [hend', houtcome', haccount', hsame, hsame', ← houtcome, ← haccount]
        exact Or.inr ⟨rfl, rfl⟩

abbrev node (internalAddress : Option Address) (requireSelf : Bool) : Reconciler :=
  create internalAddress (NodeHealth.check requireSelf)

/-- Two histories in which the same is heard differ in connects only. Then peers are numbered alike,
and a run that is over in one of them is at its connects in the other or has come to the same result
there with the same account of the topology. The list is always that of the last run that has
succeeded, with all members that it was told of. -/
theorem topology_independent_of_connects {internalAddress : Option Address} {requireSelf : Bool}
    {history history' : List Event}
    (hpatient : forall event, event ∈ history -> event.IsPatient)
    (hpatient' : forall event, event ∈ history' -> event.IsPatient)
    (hscript : (node internalAddress requireSelf).script history' =
      (node internalAddress requireSelf).script history) :
    ((node internalAddress requireSelf).after history').directory.faces =
        ((node internalAddress requireSelf).after history).directory.faces ∧
      (forall id result,
        ((node internalAddress requireSelf).after history).stage? id = some (.finished result) ->
          (exists plan, ((node internalAddress requireSelf).after history').Connects id plan) ∨
            ((node internalAddress requireSelf).after history').stage? id =
                some (.finished result) ∧
              ((node internalAddress requireSelf).share id history').filter Effect.isTopology =
                ((node internalAddress requireSelf).share id history).filter Effect.isTopology) ∧
      forall before event later id, before ++ event :: later <+: history ->
        Succeeds (node internalAddress requireSelf) before event id ->
        NoneSucceeds (node internalAddress requireSelf) (before ++ [event]) later ->
          exists earlier queried,
            Told (node internalAddress requireSelf) (before ++ [event]) id earlier queried ∧
              ((node internalAddress requireSelf).after (before ++ event :: later)).Shows
                (Topology.normalize
                  ((node internalAddress requireSelf).after earlier).selfAddress queried) := by
  have horderly := orderly_create internalAddress (NodeHealth.check requireSelf)
  have hrooted := rooted_create internalAddress (NodeHealth.check requireSelf)
  have hlisted := listed_create internalAddress (NodeHealth.check requireSelf)
  refine ⟨?_, ?_, ?_⟩
  · exact congrArg Outlook.faces
      (outlook_after_congr horderly hrooted rfl hlisted hpatient hpatient' hscript)
  · intro id result hend
    exact same_end horderly hrooted rfl hlisted rfl hpatient hpatient' hscript hend
  · intro before event later id hearlier hsucceeds hlater
    have hlock : forall e, e ∈ before -> e.TakesLock :=
      fun e he => (hpatient e (hearlier.subset (List.mem_append_left _ he))).takesLock
    exact hsucceeds.shows horderly hrooted rfl rfl hlock hlater

/-- The other member is not reached by the first run, and reached by the second one. -/
def retried : List Event :=
  [.registered memberB (.ok ()), .begun .serial, .granted, .answered 0 (.ok [memberB, memberA]),
    .replied 0 0 (.error (.config "unreachable")), .begun .serial, .granted,
    .answered 1 (.ok [memberA, memberB]), .replied 1 0 (.ok 4)]

def reached : List Event :=
  [.begun .serial, .registered memberB (.ok ()), .begun .serial, .granted,
    .answered 0 (.ok [memberB, memberA]), .replied 0 0 (.ok 3), .granted,
    .answered 1 (.ok [memberA, memberB])]

def halfway (link : Link) (waiting : List Run) (queue : List RunId) : Reconciler :=
  { internalAddress := none, check := NodeHealth.check true
    directory :=
      { peers := [⟨memberA, link⟩, ⟨memberB.withSelf true, .here⟩]
        published := [0, 1]
        edition := 1 }
    selfAddress := some (memberB.withSelf true)
    runs := ⟨.serial, .finished (.ok (.rebuilt 2 0 0))⟩ :: waiting, holder := none, queue }

theorem normalize_members {queried : List Address}
    (h : queried = [memberB, memberA] ∨ queried = [memberA, memberB]) :
    Topology.normalize (some (memberB.withSelf true)) queried =
      [memberA, memberB.withSelf true] := by
  rcases h with rfl | rfl
  · exact (Address.sort_pair _ _).trans (if_neg (by decide))
  · exact (Address.sort_pair _ _).trans (if_pos (by decide))

theorem after_retried : (node none true).after (retried.take 5) = halfway .created [] [] := by
  have hafter : (node none true).after (retried.take 5) =
      (((((node none true).registered (memberB.withSelf true) (.ok ())).1.begin
        .serial).1.grant.1.reconcile 0 [memberB, memberA]).1.reply 0 0
          (.error (.config "unreachable"))).1 := rfl
  have hself : (((node none true).registered (memberB.withSelf true) (.ok ())).1.begin
      .serial).1.grant.1.selfAddress = some (memberB.withSelf true) := rfl
  rw [hafter, reconcile, told, hself, normalize_members (Or.inl rfl)]
  rfl

theorem after_reached :
    (node none true).after (reached.take 6) = halfway (.connected 3) [⟨.serial, .waiting⟩] [1] := by
  have hafter : (node none true).after (reached.take 6) =
      ((((((node none true).begin .serial).1.registered (memberB.withSelf true) (.ok ())).1.begin
        .serial).1.grant.1.reconcile 0 [memberB, memberA]).1.reply 0 0 (.ok 3)).1 := rfl
  have hself : ((((node none true).begin .serial).1.registered (memberB.withSelf true)
      (.ok ())).1.begin .serial).1.grant.1.selfAddress = some (memberB.withSelf true) := rfl
  rw [hafter, reconcile, told, hself, normalize_members (Or.inl rfl)]
  rfl

theorem script_retried_reached :
    (node none true).script reached = (node none true).script retried := by
  have hretried : (node none true).script retried =
      (node none true).script (retried.take 5) ++
        (halfway .created [] []).script (retried.drop 5) := by
    rw [← after_retried, ← script_append]
    rfl
  have hreached : (node none true).script reached =
      (node none true).script (reached.take 6) ++
        (halfway (.connected 3) [⟨.serial, .waiting⟩] [1]).script (reached.drop 6) := by
    rw [← after_reached, ← script_append]
    rfl
  rw [hretried, hreached]
  rfl

theorem stage?_retried :
    ((node none true).after retried).stage? 1 = some (.finished (.ok .unchanged)) := by
  have hafter : (node none true).after retried =
      (halfway .created [] []).after (retried.drop 5) := by
    rw [← after_retried, ← after_append]
    rfl
  have hrest : (halfway .created [] []).after (retried.drop 5) =
      ((((halfway .created [] []).begin .serial).1.grant.1.reconcile 1 [memberA, memberB]).1.reply
        1 0 (.ok 4)).1 := rfl
  have hself : ((halfway .created [] []).begin .serial).1.grant.1.selfAddress =
      some (memberB.withSelf true) := rfl
  rw [hafter, hrest, reconcile, told, hself, normalize_members (Or.inr rfl)]
  rfl

theorem stage?_reached :
    ((node none true).after reached).stage? 1 = some (.finished (.ok .unchanged)) := by
  have hafter : (node none true).after reached =
      (halfway (.connected 3) [⟨.serial, .waiting⟩] [1]).after (reached.drop 6) := by
    rw [← after_reached, ← after_append]
    rfl
  have hrest : (halfway (.connected 3) [⟨.serial, .waiting⟩] [1]).after (reached.drop 6) =
      ((halfway (.connected 3) [⟨.serial, .waiting⟩] [1]).grant.1.reconcile 1
        [memberA, memberB]).1 := rfl
  have hself : (halfway (.connected 3) [⟨.serial, .waiting⟩] [1]).grant.1.selfAddress =
      some (memberB.withSelf true) := rfl
  rw [hafter, hrest, reconcile, told, hself, normalize_members (Or.inr rfl)]
  rfl

/-- The second run connects in one history only, and does the same to the topology in both. -/
theorem topology_independent_of_connects_of_retry :
    (forall event, event ∈ retried -> event.IsPatient) ∧
      (forall event, event ∈ reached -> event.IsPatient) ∧
      (node none true).script reached = (node none true).script retried ∧
      ((node none true).after reached).directory.faces =
        ((node none true).after retried).directory.faces ∧
      ((node none true).after retried).stage? 1 = some (.finished (.ok .unchanged)) ∧
      ((node none true).share 1 reached).filter Effect.isTopology =
        ((node none true).share 1 retried).filter Effect.isTopology := by
  have hretried : forall event, event ∈ retried -> event.IsPatient := by
    simp [retried, Event.IsPatient]
  have hreached : forall event, event ∈ reached -> event.IsPatient := by
    simp [reached, Event.IsPatient]
  rcases topology_independent_of_connects hretried hreached script_retried_reached with
    ⟨hfaces, hends, _⟩
  refine ⟨hretried, hreached, script_retried_reached, hfaces, stage?_retried, ?_⟩
  rcases hends 1 _ stage?_retried with ⟨plan, hconnects⟩ | ⟨_, hshare⟩
  · exact absurd hconnects (not_connects stage?_reached (by simp))
  · exact hshare

end Reconciler
end ClusterNode
