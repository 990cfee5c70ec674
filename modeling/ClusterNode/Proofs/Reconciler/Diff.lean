import ClusterNode.Proofs.Reconciler.Agreement
import ClusterNode.Proofs.Reconciler.Fruitless
import ClusterNode.Proofs.Reconciler.Identity
import Mathlib.Data.List.Pairwise
import Mathlib.Data.List.Permutation

/-!
# The difference that a rebuild makes

A run that is told of other members than those on the list puts a new list in its place. Each
address keeps its peer, if there is one with the same mark, and gets a new one otherwise. The
outcome counts both, and the remotes that are closed: these are the published ones that the new list
leaves out, and nobody else is closed from the moment when the run is told to its end.
-/

namespace ClusterNode

def Address.triple (a : Address) : String × UInt16 × Bool := (a.host, a.port, a.isSelf)

def Peer.triple (p : Peer) : String × UInt16 × Bool := (p.address.host, p.address.port, p.isSelf)

/-- The peer is as it was, or has got its channel. -/
def Peer.Connects (p q : Peer) : Prop :=
  q = p ∨ p.link = .created ∧ exists channel, q = { p with link := .connected channel }

/-!
## Lists of triples

Two peers of a ranked list have different keys, and at most one of them is this node. The numbers of
a draft are those of the peers to take over and of new peers, and the old ones among them are as
many as the addresses that keep theirs.
-/

namespace Topology

theorem stands_iff_triple (p : Peer) (a : Address) : stands p a = true <-> p.triple = a.triple := by
  rw [stands_iff]
  simp [Peer.triple, Address.triple, Address.key, and_assoc]

theorem sameTopology_iff_triples (peers : List Peer) (addresses : List Address) :
    sameTopology peers addresses = true <->
      peers.map Peer.triple = addresses.map Address.triple := by
  induction peers generalizing addresses with
  | nil =>
      cases addresses with
      | nil => exact iff_of_true rfl rfl
      | cons a rest => exact iff_of_false Bool.false_ne_true (by simp)
  | cons p peers ih =>
      cases addresses with
      | nil => exact iff_of_false Bool.false_ne_true (by simp)
      | cons a rest =>
          show (stands p a && sameTopology peers rest) = true <-> _
          rw [Bool.and_eq_true, ih, stands_iff_triple, List.map_cons, List.map_cons,
            List.cons.injEq]

variable {d : Directory} {current ids : List PeerId} {addresses : List Address}

def Apart (d : Directory) (n m : PeerId) : Prop :=
  forall p q, d.peer? n = some p -> d.peer? m = some q ->
    p.address.key ≠ q.address.key ∧ ¬(p.isSelf = true ∧ q.isSelf = true)

theorem Lists.apart (h : Lists d ids addresses) (hranked : Ranked addresses) :
    ids.Pairwise (Apart d) := by
  induction h with
  | nil => exact List.Pairwise.nil
  | @cons n a rest more hhead hrest ih =>
      rcases List.pairwise_cons.mp hranked with ⟨hfirst, htail⟩
      refine List.pairwise_cons.mpr ⟨?_, ih htail⟩
      intro m hm p q hp hq
      rcases exists_of_mem_left hrest hm with ⟨b, hb, q', hq', hstands'⟩
      rcases hhead with ⟨p', hp', hstands⟩
      cases hp.symm.trans hp'
      cases hq.symm.trans hq'
      rcases (stands_iff _ _).mp hstands with ⟨hkey, hself⟩
      rcases (stands_iff _ _).mp hstands' with ⟨hkey', hself'⟩
      rw [hkey, hkey', hself, hself']
      exact ⟨key_ne_of_precedes (hfirst b hb).left, (hfirst b hb).right⟩

theorem Lists.nodup (h : Lists d ids addresses) (hranked : Ranked addresses) : ids.Nodup := by
  refine (h.apart hranked).imp_of_mem ?_
  rintro n m hn _ hapart rfl
  rcases Directory.exists_peer?_of_lt (h.known n hn) with ⟨p, hp⟩
  exact (hapart p p hp hp).left rfl

theorem Lists.eq_of_isSelf (h : Lists d ids addresses) (hranked : Ranked addresses)
    {n m : PeerId} {p q : Peer} (hn : n ∈ ids) (hm : m ∈ ids) (hp : d.peer? n = some p)
    (hq : d.peer? m = some q) (hself : p.isSelf = true) (hself' : q.isSelf = true) : n = m := by
  by_contra hne
  have hsymm : Std.Symm (Apart d) := by
    constructor
    intro i j hij q p hq hp
    rcases hij p q hp hq with ⟨hkey, hone⟩
    exact ⟨hkey.symm, fun hboth => hone hboth.symm⟩
  have hapart := (h.apart hranked).forall hn hm hne
  exact (hapart p q hp hq).right ⟨hself, hself'⟩

theorem placed_numbers (table : Directory) {before : List Peer}
    (htable : table.peers = before ++ (newcomers d current addresses).map Peer.ofAddress) :
    List.Forall₂ (fun n a => existing? d current a = some n ∨ existing? d current a = none ∧
      before.length ≤ n ∧ table.peer? n = some (Peer.ofAddress a))
      (numbers d current before.length addresses) addresses := by
  induction addresses generalizing before with
  | nil => exact List.Forall₂.nil
  | cons a rest ih =>
      rw [numbers]
      cases hfind : existing? d current a with
      | some id =>
          refine List.Forall₂.cons (Or.inl hfind) (ih ?_)
          simpa [newcomers, hfind] using htable
      | none =>
          have htable' : table.peers = before ++ [Peer.ofAddress a] ++
              (newcomers d current rest).map Peer.ofAddress := by
            simpa [newcomers, hfind] using htable
          have hp : table.peer? before.length = some (Peer.ofAddress a) := by
            simp [Directory.peer?, htable']
          have hrest := ih htable'
          rw [List.length_append, List.length_singleton] at hrest
          refine List.Forall₂.cons (Or.inr ⟨hfind, Nat.le_refl _, hp⟩) (hrest.imp ?_)
          rintro n b (hold | ⟨hnone, hle, hn⟩)
          · exact Or.inl hold
          · exact Or.inr ⟨hnone, Nat.le_of_succ_le hle, hn⟩

theorem length_filter_numbers {fresh : PeerId} (hfresh : forall n, n ∈ current -> n < fresh)
    (addresses : List Address) :
    ((numbers d current fresh addresses).filter fun n => decide (n ∈ current)).length =
      (stayers d current addresses).length := by
  induction addresses generalizing fresh with
  | nil => rfl
  | cons a rest ih =>
      rw [numbers]
      cases hfind : existing? d current a with
      | some n =>
          have hn := (exists_of_existing?_eq_some hfind).left
          simp only [stayers, List.filter_cons, hfind, Option.isSome_some, if_true, hn, decide_true,
            List.length_cons]
          exact congrArg Nat.succ (ih hfresh)
      | none =>
          have hnot : fresh ∉ current := fun hmem => Nat.lt_irrefl _ (hfresh fresh hmem)
          have hlater : forall n, n ∈ current -> n < fresh + 1 :=
            fun n hn => Nat.lt_succ_of_lt (hfresh n hn)
          simpa [stayers, hfind, hnot] using ih hlater

theorem length_newcomers_add (d : Directory) (current : List PeerId) (addresses : List Address) :
    (newcomers d current addresses).length + (stayers d current addresses).length =
      addresses.length := by
  have hsplit : stayers d current addresses =
      addresses.filter fun a => !(existing? d current a).isNone := by
    apply List.filter_congr
    intro a _
    simp
  rw [hsplit, newcomers]
  exact (List.length_eq_length_filter_add _).symm

theorem length_stayers_add (h : Lists d current addresses) (hranked : Ranked addresses)
    {queried : List Address} (hnodup : (numbers d current d.peers.length queried).Nodup) :
    (stayers d current queried).length +
      (superseded current (numbers d current d.peers.length queried)).length = current.length := by
  have hperm : (current.filter fun n => (numbers d current d.peers.length queried).contains n).Perm
      ((numbers d current d.peers.length queried).filter fun n => decide (n ∈ current)) := by
    rw [List.perm_ext_iff_of_nodup ((h.nodup hranked).filter _) (hnodup.filter _)]
    intro n
    simp [List.mem_filter, and_comm]
  rw [← length_filter_numbers h.known queried, ← hperm.length_eq]
  exact (List.length_eq_length_filter_add _).symm

end Topology

/-!
## Nobody is closed on the way

A step that publishes no list closes nobody.
-/

theorem Peer.Connects.trans {p q s : Peer} (hpq : p.Connects q) (hqs : q.Connects s) :
    p.Connects s := by
  rcases hpq with rfl | ⟨hcreated, channel, rfl⟩
  · exact hqs
  · rcases hqs with rfl | ⟨hlink, _⟩
    · exact Or.inr ⟨hcreated, channel, rfl⟩
    · cases hlink

theorem Peer.Connects.triple_eq {p q : Peer} (h : p.Connects q) : q.triple = p.triple := by
  rcases h with rfl | ⟨hcreated, channel, rfl⟩
  · rfl
  · simp [Peer.triple, Peer.isSelf, hcreated]

theorem Peer.Connects.closed_iff {p q : Peer} (h : p.Connects q) :
    q.link = .closed <-> p.link = .closed := by
  rcases h with rfl | ⟨hcreated, channel, rfl⟩
  · rfl
  · simp [hcreated]

namespace Directory

variable {d d' d'' : Directory}

/-- Links are only opened: each peer is as it was or has got its channel, and no new one is
closed. -/
structure Unharmed (d d' : Directory) : Prop where
  peers : forall n p, d.peer? n = some p -> exists q, d'.peer? n = some q ∧ p.Connects q
  fresh : forall n q, d'.peer? n = some q -> d.peer? n = none -> q.link ≠ .closed

theorem Unharmed.refl (d : Directory) : d.Unharmed d := by
  constructor
  · intro n p hp
    exact ⟨p, hp, Or.inl rfl⟩
  · intro n q hq hnone
    cases hq.symm.trans hnone

theorem Unharmed.trans (h : d.Unharmed d') (h' : d'.Unharmed d'') : d.Unharmed d'' := by
  constructor
  · intro n p hp
    rcases h.peers n p hp with ⟨q, hq, hpq⟩
    rcases h'.peers n q hq with ⟨s, hs, hqs⟩
    exact ⟨s, hs, hpq.trans hqs⟩
  · intro n s hs hnone
    cases hmiddle : d'.peer? n with
    | none => exact h'.fresh n s hs hmiddle
    | some q =>
        rcases h'.peers n q hmiddle with ⟨s', hs', hqs⟩
        cases hs.symm.trans hs'
        rw [Ne, hqs.closed_iff]
        exact h.fresh n q hmiddle hnone

theorem unharmed_append (d : Directory) {more : List Peer}
    (hmore : forall p, p ∈ more -> p.link ≠ .closed) :
    d.Unharmed { d with peers := d.peers ++ more } := by
  constructor
  · intro n p hp
    refine ⟨p, ?_, Or.inl rfl⟩
    exact (List.getElem?_append_left (lt_length_of_peer? hp)).trans hp
  · intro n q hq hnone
    rcases peer?_append_eq_some hq with hold | hnew
    · cases hold.symm.trans hnone
    · exact hmore q hnew

theorem unharmed_finishConnect (d : Directory) (id : PeerId)
    (answer : Except ClusterError Channel) :
    d.Unharmed (d.modify id fun p => (p.finishConnect answer).1) := by
  constructor
  · intro n p hp
    rw [peer?_modify, hp]
    refine ⟨_, rfl, ?_⟩
    dsimp only
    split
    · exact Reconciler.finishConnect_cases p answer
    · exact Or.inl rfl
  · intro n q hq hnone
    rw [peer?_modify, hnone] at hq
    cases hq

end Directory

namespace Reconciler

variable {r r' : Reconciler} {id : RunId} {event : Event} {effects : List Effect}
  {current : List PeerId} {plan : Plan} {d : Directory} {queried : List Address}

theorem unharmed_staged
    (hknown : forall id, id ∈ r.directory.published -> id < r.directory.peers.length)
    (queried : List Address) : r.directory.Unharmed (r.staged queried) := by
  by_cases h : r.confirms queried = true
  · rw [staged_of_confirms h]
    exact Directory.Unharmed.refl _
  · rw [staged_of_not_confirms hknown h]
    apply Directory.unharmed_append
    intro p hp
    rcases List.mem_map.mp hp with ⟨a, _, rfl⟩
    exact Peer.link_ofAddress_ne_closed a

theorem Opening.unharmed (h : Opening r id event current plan d effects)
    (hknown : forall id, id ∈ r.directory.published -> id < r.directory.peers.length) :
    r.directory.Unharmed d := by
  cases h with
  | told queried _ => exact unharmed_staged hknown queried
  | heard attempt answer _ _ => exact Directory.unharmed_finishConnect _ _ answer

theorem unharmed_of_directory_eq (h : r'.directory = r.directory) :
    r.directory.Unharmed r'.directory := by
  rw [h]
  exact Directory.Unharmed.refl _

theorem Turn.unharmed (h : Turn r id event r' effects)
    (hknown : forall id, id ∈ r.directory.published -> id < r.directory.peers.length)
    (hquiet : Quiet effects) : r.directory.Unharmed r'.directory := by
  cases h with
  | rests _ => exact Directory.Unharmed.refl _
  | enters kind _ => exact unharmed_of_directory_eq (idle_begin r kind).directory
  | starts rest _ _ => exact unharmed_of_directory_eq (idle_starts r id rest).directory
  | fails e _ => exact unharmed_of_directory_eq (directory_conclude r id _)
  | goes d hopening _ _ => exact hopening.unharmed hknown
  | @ends _ current plan d _ attempts hopening =>
      cases plan with
      | keep =>
          rw [complete_eq, directory_conclude]
          exact hopening.unharmed hknown
      | replace next created kept =>
          exfalso
          apply hquiet next
          rw [complete_replace]
          simp
  | leaves _ _ => exact unharmed_of_directory_eq (idle_abandon r id).directory

theorem Aside.unharmed (h : Aside r event r' effects) (hinner : event.IsInner) :
    r.directory.Unharmed r'.directory := by
  cases h with
  | registers address answer =>
      exact unharmed_of_directory_eq (idle_registered r _ answer).directory
  | rests => exact Directory.Unharmed.refl _
  | closes peer => exact hinner.elim

theorem unharmed_step (hrooted : r.Rooted) (hinner : event.IsInner)
    (hquiet : Quiet (r.step event).2) : r.directory.Unharmed (r.step event).1.directory := by
  cases howner : r.owner? event with
  | none => exact (aside_step howner).unharmed hinner
  | some id => exact (turn_step howner).unharmed hrooted.known hquiet

/-!
## While a run is under way

A run that has the lock keeps it until it is over, and until then no list is published. When it goes
to its connects it has put the missing peers into the directory.
-/

theorem Turn.active_or_over (h : Turn r id event r' effects) (hlocked : r.Locked) {s : RunStage}
    (hs : r.stage? id = some s) (hstage : s.IsActive ∨ s.isOver = true) :
    exists t, r'.stage? id = some t ∧ (t.IsActive ∨ t.isOver = true) := by
  cases h with
  | rests _ => exact ⟨s, hs, hstage⟩
  | enters kind hid =>
      have hnone : r.stage? id = none := by
        rw [← hid]
        simp [stage?]
      cases hnone.symm.trans hs
  | starts _ _ hqueue =>
      cases (hlocked.queued id (hqueue ▸ List.mem_cons_self)).symm.trans hs
      rcases hstage with hactive | hover
      · exact hactive.elim
      · cases hover
  | fails e _ =>
      rw [stage?_conclude]
      exact ⟨_, stage?_setStage_self hs _, Or.inr rfl⟩
  | goes d _ _ _ =>
      have hs' : { r with directory := d }.stage? id = some s := hs
      exact ⟨_, stage?_setStage_self hs' _, Or.inl True.intro⟩
  | ends d attempts _ =>
      have hs' : { r with directory := d }.stage? id = some s := hs
      rw [stage?_complete]
      exact ⟨_, stage?_setStage_self hs' _, Or.inr rfl⟩
  | leaves hs' hgoing => exact ⟨_, stage?_abandon_self hs' hgoing, Or.inr rfl⟩

theorem active_or_over_after (hlocked : r.Locked) {s : RunStage} (hs : r.stage? id = some s)
    (hstage : s.IsActive ∨ s.isOver = true) (history : List Event) :
    exists t, (r.after history).stage? id = some t ∧ (t.IsActive ∨ t.isOver = true) := by
  induction history generalizing r s with
  | nil => exact ⟨s, hs, hstage⟩
  | cons event rest ih =>
      by_cases howner : r.owner? event = some id
      · rcases (turn_step howner).active_or_over hlocked hs hstage with ⟨t, ht, hstage'⟩
        exact ih (hlocked.step event) ht hstage'
      · exact ih (hlocked.step event) ((stage?_step_of_owner?_ne howner).trans hs) hstage

theorem Opening.isActive (h : Opening r id event current plan d effects) :
    exists s, r.stage? id = some s ∧ s.IsActive := by
  cases h with
  | told queried hs => exact ⟨_, hs, True.intro⟩
  | heard attempt answer hs _ => exact ⟨_, hs, True.intro⟩

theorem quiet_of_going (horderly : r.Orderly) {s t : RunStage} (hs : r.stage? id = some s)
    (hactive : s.IsActive) (ht : (r.step event).1.stage? id = some t) (hgoing : t.isOver = false) :
    Quiet (r.step event).2 := by
  by_contra hloud
  rcases exists_finishes_of_not_quiet hloud with ⟨other, _, _, _, _, _, hfinishes⟩
  rcases hfinishes.succeeded.right with ⟨outcome, hend⟩
  rcases hfinishes with ⟨_, _, _, hopening, _, _⟩
  rcases hopening.isActive with ⟨s', hs', hactive'⟩
  have hsame := horderly.eq_of_isActive hs hactive hs' hactive'
  subst hsame
  cases hend.symm.trans ht
  cases hgoing

theorem unharmed_after (horderly : r.Orderly) (hrooted : r.Rooted) {s t : RunStage}
    (hs : r.stage? id = some s) (hactive : s.IsActive) {history : List Event}
    (hserial : forall e, e ∈ history -> e.IsSerial)
    (ht : (r.after history).stage? id = some t) (hgoing : t.isOver = false) :
    r.directory.Unharmed (r.after history).directory := by
  induction history using List.reverseRecOn generalizing t with
  | nil => exact Directory.Unharmed.refl _
  | append_singleton history event ih =>
      have hserial' : forall e, e ∈ history -> e.IsSerial :=
        fun e he => hserial e (List.mem_append_left _ he)
      have hlast : event.IsSerial := hserial event (List.mem_append_right _ List.mem_cons_self)
      have hlocked := horderly.locked
      rcases active_or_over_after hlocked hs (Or.inl hactive) history with ⟨u, hu, hstage⟩
      have hgoing' : u.isOver = false := by
        by_contra hover
        have hover' : u.isOver = true := by simpa using hover
        cases (stage?_append_of_isOver hlocked hu hover' [event]).symm.trans ht
        exact hover hgoing
      have hactive' : u.IsActive := by
        rcases hstage with hactive' | hover
        · exact hactive'
        · cases hover.symm.trans hgoing'
      have horderly' : (r.after history).Orderly :=
        horderly.run fun e he => (hserial' e he).takesLock
      rw [after_concat] at ht ⊢
      have hquiet := quiet_of_going horderly' hu hactive' ht hgoing
      exact (ih hserial' hu hgoing').trans
        (unharmed_step (hrooted.run history) hlast.isInner hquiet)

theorem directory_told_of_going (hs : r.stage? id = some .querying) {t : RunStage}
    (ht : (r.step (.answered id (.ok queried))).1.stage? id = some t) (hgoing : t.isOver = false) :
    (r.step (.answered id (.ok queried))).1.directory = r.staged queried ∧ t.IsActive := by
  have hs' : { r with directory := r.staged queried }.stage? id = some .querying := hs
  rw [step_told hs] at ht ⊢
  unfold connect at ht ⊢
  split at ht
  · rcases succeeded_complete hs' r.directory.published (r.decision queried) [] with
      ⟨outcome, hend⟩
    cases hend.symm.trans ht
    cases hgoing
  · rw [stage?_setStage_self hs'] at ht
    cases ht
    exact ⟨rfl, True.intro⟩

/-!
## The list, the counts and the closes

The peers of the old list stay, or they are closed, or they are among the local ones, of which there
is at most one.
-/

theorem peer?_closeAll (d : Directory) (ids : List PeerId) (n : PeerId) :
    (closeAll d ids).peer? n = (d.peer? n).map fun p => if n ∈ ids then p.close else p := by
  induction ids generalizing d with
  | nil => simp [closeAll]
  | cons id rest ih =>
      show (closeAll (d.close id) rest).peer? n = _
      rw [ih, Directory.close, Directory.peer?_modify, Option.map_map]
      congr 1
      funext p
      by_cases hid : id = n
      · subst hid
        by_cases hrest : id ∈ rest
        · simp [hrest]
        · simp [hrest]
      · have hne : ¬n = id := fun heq => hid heq.symm
        simp [hid, hne]

/-- What a rebuild makes out of the published list of `c`, with the directory that it ends with. -/
structure Rebuilt (c : Reconciler) (d : Directory) (addresses : List Address)
    (created kept closed : Nat) : Prop where
  /-- Each address has the published peer with its host, port and mark, if there is one, and a new
  peer otherwise. -/
  listed : List.Forall₂ (fun n a =>
      (exists p, c.Publishes n p ∧ p.triple = a.triple) ∨
      (forall m p, c.Publishes m p -> p.triple ≠ a.triple) ∧ c.directory.peers.length ≤ n ∧
        exists q, d.peer? n = some q ∧ (Peer.ofAddress a).Connects q)
    d.published addresses
  taken : kept =
    (d.published.filter fun n => decide (n ∈ c.directory.published)).length
  total : created + kept = addresses.length
  /-- Only the local peer can leave the list without being closed. -/
  left : exists l, kept + closed + l = c.directory.published.length ∧
    (l = 1 ∧ (exists n p, c.Publishes n p ∧ p.isSelf = true ∧ n ∉ d.published) ∨
      l = 0 ∧ forall n p, c.Publishes n p -> p.isSelf = true -> n ∈ d.published)
  /-- Those who become closed are the published remotes that the new list leaves out. -/
  closes : forall n q, d.peer? n = some q ->
    ((q.state = .closed ∧ forall p, c.directory.peer? n = some p -> p.state ≠ .closed) <->
      n ∉ d.published ∧ exists p, c.Publishes n p ∧ p.isSelf = false)
  /-- A peer that stays is as it was, or has got its channel. -/
  stays : forall n p, c.Publishes n p -> n ∈ d.published ->
    exists q, d.peer? n = some q ∧ p.Connects q

section Rebuild

variable {c : Reconciler} {table : Directory} {n : PeerId}

theorem mem_leaving_iff {next : List PeerId} : n ∈ leaving d current next <->
    n ∈ current ∧ n ∉ next ∧ exists p, d.peer? n = some p ∧ p.isSelf = false := by
  unfold leaving Topology.superseded
  rw [List.mem_filter, List.mem_filter, Directory.isRemote_eq_true_iff]
  simp [and_assoc]

theorem listed_nextOf (hfit : c.directory.Fit) (hdiffers : ¬c.confirms queried = true)
    (hstaged : (c.staged queried).Unharmed table) :
    List.Forall₂ (fun n a =>
        (exists p, c.Publishes n p ∧ p.triple = a.triple) ∨
        (forall m p, c.Publishes m p -> p.triple ≠ a.triple) ∧ c.directory.peers.length ≤ n ∧
          exists q, table.peer? n = some q ∧ (Peer.ofAddress a).Connects q)
      (c.nextOf queried) (Topology.normalize c.selfAddress queried) := by
  rcases hfit.listed with ⟨listed, _, hlists⟩
  rw [staged_of_not_confirms hlists.known hdiffers] at hstaged
  have hplaced : List.Forall₂ _ (c.nextOf queried) (Topology.normalize c.selfAddress queried) :=
    Topology.placed_numbers (c.drafted queried).directory rfl
  refine hplaced.imp ?_
  rintro n a (hfind | ⟨hnone, hle, hn⟩)
  · rcases Topology.exists_of_existing?_eq_some hfind with ⟨hmem, p, hp, hstands⟩
    exact Or.inl ⟨p, ⟨hmem, hp⟩, (Topology.stands_iff_triple p a).mp hstands⟩
  · refine Or.inr ⟨?_, hle, hstaged.peers n _ hn⟩
    intro m p ⟨hm, hp⟩ htriple
    have hnot := List.find?_eq_none.mp hnone m hm
    rw [hp] at hnot
    exact hnot ((Topology.stands_iff_triple p a).mpr htriple)

def locals (c : Reconciler) (next : List PeerId) : List PeerId :=
  (Topology.superseded c.directory.published next).filter fun n => !c.directory.isRemote n

theorem mem_locals_iff {next : List PeerId}
    (hknown : forall n, n ∈ c.directory.published -> n < c.directory.peers.length) :
    n ∈ c.locals next <-> exists p, c.Publishes n p ∧ p.isSelf = true ∧ n ∉ next := by
  unfold locals Topology.superseded Directory.isRemote Publishes
  rw [List.mem_filter, List.mem_filter]
  constructor
  · rintro ⟨⟨hn, hnot⟩, hlocal⟩
    rcases Directory.exists_peer?_of_lt (hknown n hn) with ⟨p, hp⟩
    rw [hp] at hlocal
    exact ⟨p, ⟨hn, hp⟩, by simpa using hlocal, by simpa using hnot⟩
  · rintro ⟨p, ⟨hn, hp⟩, hself, hnot⟩
    refine ⟨⟨hn, by simpa using hnot⟩, ?_⟩
    simp [hp, hself]

theorem length_locals (hfit : c.directory.Fit) (next : List PeerId) :
    (c.locals next).length = 1 ∧ (exists n p, c.Publishes n p ∧ p.isSelf = true ∧ n ∉ next) ∨
      (c.locals next).length = 0 ∧ forall n p, c.Publishes n p -> p.isSelf = true -> n ∈ next := by
  rcases hfit.listed with ⟨listed, hranked, hlists⟩
  have hmem : forall {n}, n ∈ c.locals next <->
      exists p, c.Publishes n p ∧ p.isSelf = true ∧ n ∉ next := mem_locals_iff hlists.known
  by_cases hleft : exists n p, c.Publishes n p ∧ p.isSelf = true ∧ n ∉ next
  · refine Or.inl ⟨?_, hleft⟩
    rcases hleft with ⟨n, p, hp, hself, hnot⟩
    have hone : (c.locals next).Perm [n] := by
      have hnodup : (c.locals next).Nodup := ((hlists.nodup hranked).filter _).filter _
      rw [List.perm_ext_iff_of_nodup hnodup (List.nodup_singleton n)]
      intro m
      rw [hmem, List.mem_singleton]
      constructor
      · rintro ⟨q, hq, hself', _⟩
        exact hlists.eq_of_isSelf hranked hq.left hp.left hq.right hp.right hself' hself
      · rintro rfl
        exact ⟨p, hp, hself, hnot⟩
    exact hone.length_eq
  · refine Or.inr ⟨?_, ?_⟩
    · rw [List.length_eq_zero_iff, List.eq_nil_iff_forall_not_mem]
      intro n hn
      exact hleft ⟨n, hmem.mp hn⟩
    · intro n p hp hself
      by_contra hnot
      exact hleft ⟨n, p, hp, hself, hnot⟩

theorem length_stayers_leaving_locals (hfit : c.directory.Fit) (queried : List Address) :
    (Topology.stayers c.directory c.directory.published
        (Topology.normalize c.selfAddress queried)).length +
      (leaving c.directory c.directory.published (c.nextOf queried)).length +
        (c.locals (c.nextOf queried)).length = c.directory.published.length := by
  rcases hfit.listed with ⟨listed, hranked, hlists⟩
  have hnext : (c.nextOf queried).Nodup :=
    lists_nextOf.nodup (Topology.ranked_normalize c.selfAddress queried)
  have hcount := Topology.length_stayers_add hlists hranked hnext
  have hsplit := List.length_eq_length_filter_add
    (l := Topology.superseded c.directory.published (c.nextOf queried)) c.directory.isRemote
  rw [Nat.add_assoc, leaving, locals, ← hsplit]
  exact hcount

/-!
### The directory after the rebuild

The remotes that the new list leaves out become closed. All other peers are as they were before the
last step.
-/

variable {current next : List PeerId}

theorem peer?_replaced (r : Reconciler) (current next : List PeerId) (n : PeerId) :
    (r.replaced current next).directory.peer? n = (r.directory.peer? n).map fun p =>
      if n ∈ leaving r.directory current next then p.close else p :=
  peer?_closeAll (r.directory.publish next) _ n

theorem peer?_replaced_of_not_left (h : n ∉ current ∨ n ∈ next) :
    (r.replaced current next).directory.peer? n = r.directory.peer? n := by
  have hnot : n ∉ leaving r.directory current next := by
    rw [mem_leaving_iff]
    rintro ⟨hmem, hout, _⟩
    exact h.elim (fun hnone => hnone hmem) hout
  rw [peer?_replaced]
  simp [hnot]

theorem closed_replaced_iff (hfit : c.directory.Fit)
    (hunharmed : c.directory.Unharmed r.directory) {q : Peer}
    (hq : (r.replaced c.directory.published next).directory.peer? n = some q) :
    (q.state = .closed ∧ forall p, c.directory.peer? n = some p -> p.state ≠ .closed) <->
      n ∉ next ∧ exists p, c.Publishes n p ∧ p.isSelf = false := by
  rcases hfit.listed with ⟨listed, _, hlists⟩
  rw [peer?_replaced] at hq
  rcases Option.map_eq_some_iff.mp hq with ⟨s, hs, rfl⟩
  simp only [Ne, Peer.state_eq_closed_iff]
  constructor
  · rintro ⟨hclosed, hopen⟩
    split at hclosed
    · rename_i hmem
      rcases mem_leaving_iff.mp hmem with ⟨hn, hout, s', hs', hself⟩
      cases hs.symm.trans hs'
      rcases Directory.exists_peer?_of_lt (hlists.known n hn) with ⟨p, hp⟩
      rcases hunharmed.peers n p hp with ⟨s', hs', hps⟩
      cases hs.symm.trans hs'
      have hsame := congrArg (fun triple => triple.2.2) hps.triple_eq
      exact ⟨hout, p, ⟨hn, hp⟩, hsame.symm.trans hself⟩
    · exfalso
      cases hp : c.directory.peer? n with
      | none => exact hunharmed.fresh n s hs hp hclosed
      | some p =>
          rcases hunharmed.peers n p hp with ⟨s', hs', hps⟩
          cases hs.symm.trans hs'
          exact hopen p hp (hps.closed_iff.mp hclosed)
  · rintro ⟨hout, p, ⟨hn, hp⟩, hself⟩
    rcases hunharmed.peers n p hp with ⟨s', hs', hps⟩
    cases hs.symm.trans hs'
    have hself' : s.isSelf = false :=
      (congrArg (fun triple => triple.2.2) hps.triple_eq).trans hself
    have hmem : n ∈ leaving r.directory c.directory.published next :=
      mem_leaving_iff.mpr ⟨hn, hout, s, hs, hself'⟩
    refine ⟨?_, ?_⟩
    · rw [if_pos hmem]
      exact Peer.link_close_of_isSelf_false hself'
    · intro p' hp' hclosed
      exact hfit.unclosed n p' hp' hclosed hn

theorem rebuilt_replaced (hfit : c.directory.Fit) (hdiffers : ¬c.confirms queried = true)
    (hstaged : (c.staged queried).Unharmed r.directory) :
    Rebuilt c (r.replaced c.directory.published (c.nextOf queried)).directory
      (Topology.normalize c.selfAddress queried)
      (Topology.newcomers c.directory c.directory.published
        (Topology.normalize c.selfAddress queried)).length
      (Topology.stayers c.directory c.directory.published
        (Topology.normalize c.selfAddress queried)).length
      (leaving c.directory c.directory.published (c.nextOf queried)).length := by
  rcases hfit.listed with ⟨listed, _, hlists⟩
  have hknown := hlists.known
  have hunharmed : c.directory.Unharmed r.directory :=
    (unharmed_staged hknown queried).trans hstaged
  have hpublished : (r.replaced c.directory.published (c.nextOf queried)).directory.published =
      c.nextOf queried := published_closeAll _ _
  constructor
  · rw [hpublished]
    refine (listed_nextOf hfit hdiffers hstaged).imp ?_
    rintro n a (hold | ⟨hnone, hle, hnew⟩)
    · exact Or.inl hold
    · refine Or.inr ⟨hnone, hle, ?_⟩
      rw [peer?_replaced_of_not_left (Or.inl fun hmem => Nat.not_lt_of_le hle (hknown n hmem))]
      exact hnew
  · rw [hpublished]
    exact (Topology.length_filter_numbers hknown _).symm
  · exact Topology.length_newcomers_add _ _ _
  · rw [hpublished]
    exact ⟨_, length_stayers_leaving_locals hfit queried, length_locals hfit _⟩
  · intro n q hq
    rw [hpublished]
    exact closed_replaced_iff hfit hunharmed hq
  · rw [hpublished]
    intro n p hp hn
    rw [peer?_replaced_of_not_left (Or.inr hn)]
    exact hunharmed.peers n p hp.right

end Rebuild

/-!
## The end of the run

Between the answer to its query and its end a run closes nobody.
-/

section End

variable {history before : List Event}

theorem Opening.unharmed_told (hledger : Ledger r []) (hrooted : r.Rooted)
    (hserial : forall e, e ∈ history -> e.IsSerial)
    (h : Opening (r.after history) id event current plan d effects)
    (htold : Told r (history ++ [event]) id before queried) {middle : List Event}
    (hsplit : history = before ++ middle) :
    ((r.after before).staged queried).Unharmed d := by
  have hlocked := hledger.orderly.locked
  have hlater := h.unharmed (hrooted.run history).known
  rcases htold with ⟨⟨later, hwhole⟩, hquerying⟩
  rw [hsplit, List.append_assoc] at hwhole
  have hrest := List.append_cancel_left hwhole
  cases middle with
  | nil =>
      rw [List.append_nil] at hsplit
      subst hsplit
      cases hrest
      cases h with
      | told _ _ => exact Directory.Unharmed.refl _
  | cons e rest =>
      cases hrest
      have hafter : r.after history =
          ((r.after before).step (.answered id (.ok queried))).1.after rest := by
        rw [hsplit, after_append]
        rfl
      have hlocked' := (hlocked.run before).step (.answered id (.ok queried))
      rcases h.isActive with ⟨s, hs, hactive⟩
      rw [hafter] at hs hlater
      have hgoing := isOver_of_isActive hactive
      rcases beyondQuery_told hquerying queried with ⟨t, ht, _⟩
      have hgoing' : t.isOver = false := by
        by_contra hover
        have hover' : t.isOver = true := by simpa using hover
        cases (stage?_after_of_isOver hlocked' ht hover' rest).symm.trans hs
        exact hover hgoing
      rcases directory_told_of_going hquerying ht hgoing' with ⟨hdirectory, hactive'⟩
      have hserial' : forall e, e ∈ before ++ .answered id (.ok queried) :: rest -> e.IsSerial :=
        hsplit ▸ hserial
      have horderly : (r.after before).Orderly :=
        hledger.orderly.run fun e he => (hserial' e (List.mem_append_left _ he)).takesLock
      have horderly' : ((r.after before).step (.answered id (.ok queried))).1.Orderly :=
        horderly.step True.intro
      have hrooted' := (hrooted.run before).step (.answered id (.ok queried))
      have hmiddle := unharmed_after horderly' hrooted' ht hactive'
        (fun e he => hserial' e (by simp [he])) hs hgoing
      rw [← hdirectory]
      exact hmiddle.trans hlater

/-- A run that has been told of other members ends with a rebuild of the list that was published
when it was told. -/
theorem Finishes.rebuilt (hledger : Ledger r []) (hrooted : r.Rooted) (hnew : r.stage? id = none)
    (hserial : forall e, e ∈ history -> e.IsSerial)
    (h : Finishes (r.after history) id event current plan r' effects)
    (htold : Told r (history ++ [event]) id before queried)
    (hdiffers : ¬(r.after before).confirms queried = true) :
    exists created kept closed,
      r'.stage? id = some (.finished (.ok (.rebuilt created kept closed))) ∧
        Rebuilt (r.after before) r'.directory
          (Topology.normalize (r.after before).selfAddress queried) created kept closed := by
  have hlocked := hledger.orderly.locked
  have hknown := (hrooted.run before).known
  rcases h.exists_told hlocked hrooted hnew with
    ⟨before', queried', htold', hcurrent, hplan, middle, hsplit⟩
  rcases htold'.unique hlocked htold with ⟨rfl, rfl⟩
  have hfit : (r.after before').directory.Fit := by
    apply hledger.fit_after
    intro e he
    exact hserial e (hsplit ▸ List.mem_append_left middle he)
  rcases h with ⟨d, opening, attempts, hopening, rfl, _⟩
  have hstaged := hopening.unharmed_told hledger hrooted hserial htold' hsplit
  have hgrows := hopening.grows_told hrooted hsplit
  rcases hopening.not_over with ⟨s, hs, _⟩
  have hs' : { r.after history with directory := d }.stage? id = some s := hs
  rw [decision_of_not_confirms hknown hdiffers] at hplan
  subst hcurrent hplan
  have hrebuilt := rebuilt_replaced (r := { r.after history with directory := d }) hfit hdiffers
    hstaged
  have hend := stage?_complete { r.after history with directory := d } id id
    (r.after before').directory.published ((r.after before').planOf queried') attempts
  rw [stage?_setStage_self hs', outcome_congr hgrows hknown] at hend
  refine ⟨_, _, _, hend, ?_⟩
  rw [complete_eq, directory_conclude]
  exact hrebuilt

end End

/-- When a run is told of members that differ from the published peers in hosts, ports, marks or
order, it comes to its end however its connects go, and what it does by then is a rebuild. -/
theorem rebuilt_of_differs (internalAddress : Option Address) (check : HealthCheck)
    {history before : List Event} {id : RunId} {queried : List Address}
    (hserial : forall e, e ∈ history -> e.IsSerial)
    (htold : Told (create internalAddress check) history id before queried)
    (hdiffers :
      ((create internalAddress check).after before).directory.snapshot.map Peer.triple ≠
        (Topology.normalize ((create internalAddress check).after before).selfAddress queried).map
          Address.triple) :
    (forall connector : Nat -> Except ClusterError Channel, exists later,
      (forall e, e ∈ later -> exists k, e = .replied id k (connector k)) ∧
        ((create internalAddress check).after
          (before ++ .answered id (.ok queried) :: later)).Succeeded id) ∧
    forall result,
      ((create internalAddress check).after history).stage? id = some (.finished result) ->
        exists middle event created kept closed, before ++ middle ++ [event] <+: history ∧
          Succeeds (create internalAddress check) (before ++ middle) event id ∧
          result = .ok (.rebuilt created kept closed) ∧
          Rebuilt ((create internalAddress check).after before)
            ((create internalAddress check).after (before ++ middle ++ [event])).directory
            (Topology.normalize ((create internalAddress check).after before).selfAddress queried)
            created kept closed := by
  have hledger := ledger_create internalAddress check
  have hlocked := locked_create internalAddress check
  have hrooted := rooted_create internalAddress check
  have hnone := stage?_eq_none_of_nil (r := create internalAddress check) rfl id
  rcases htold with ⟨⟨later, rfl⟩, hquerying⟩
  have htold : Told (create internalAddress check)
      (before ++ .answered id (.ok queried) :: later) id before queried :=
    ⟨⟨later, rfl⟩, hquerying⟩
  constructor
  · intro connector
    rcases exists_end (hrooted.run before) hquerying (.ok queried) connector with
      ⟨later, result, hlater, hend⟩
    rw [← after_append] at hend
    rcases end_of_told hlocked hrooted rfl hquerying hend with ⟨rfl, _⟩
    exact ⟨later, hlater, _, hend⟩
  · intro result hresult
    rcases end_of_told hlocked hrooted rfl hquerying hresult with ⟨hok, _⟩
    have hnot := not_succeeded hquerying rfl
    have hturning := exists_turning_point
      (P := fun h => ((create internalAddress check).after h).Succeeded id) hnot ⟨_, hok ▸ hresult⟩
    rcases hturning with ⟨middle, event, rest, hsplit, hgoing, hsucceeded⟩
    have hwhole : before ++ .answered id (.ok queried) :: later =
        before ++ middle ++ [event] ++ rest := by
      rw [hsplit]
      simp
    rw [hwhole] at hserial htold hresult
    have hserial' : forall e, e ∈ before ++ middle -> e.IsSerial :=
      fun e he => hserial e (List.mem_append_left _ (List.mem_append_left _ he))
    have hsucceeds : Succeeds (create internalAddress check) (before ++ middle) event id :=
      ⟨hgoing, hsucceeded⟩
    rcases hsucceeds.exists_finishes with ⟨current, plan, hfinishes⟩
    rcases hfinishes.exists_told hlocked hrooted hnone with ⟨before', queried', htold', _, _, _⟩
    rcases (htold'.append rest).unique hlocked htold with ⟨rfl, rfl⟩
    have hother : ¬((create internalAddress check).after before').confirms queried' = true :=
      fun hconfirms => hdiffers ((Topology.sameTopology_iff_triples _ _).mp hconfirms)
    rcases hfinishes.rebuilt hledger hrooted hnone hserial' htold' hother with
      ⟨created, kept, closed, hend, hrebuilt⟩
    have hstays := stage?_append_of_isOver hlocked hend rfl rest
    have hsame := RunStage.finished.inj (Option.some.inj (hresult.symm.trans hstays))
    exact ⟨middle, event, created, kept, closed, ⟨rest, hwhole.symm⟩, hsucceeds, hsame, hrebuilt⟩

/-- Three members, the second of which is this node. -/
def reshuffling : List Event :=
  [.begun .serial, .granted,
    .answered 0 (.ok [memberA, memberB, memberC]),
    .replied 0 0 (.ok 1), .replied 0 1 (.ok 2), .replied 0 2 (.ok 3),
    .registered memberB (.ok ()), .begun .serial, .granted]

def reshuffled : List Address :=
  [{ host := "d", port := 9 }, memberC, memberB]

/-- The peer of this node is replaced, and its old one is closed. -/
theorem rebuilt_of_reshuffling :
    (forall e, e ∈ reshuffling ++ [.answered 1 (.ok reshuffled), .replied 1 0 (.ok 4)] ->
      e.IsSerial) ∧
    Told (create none (NodeHealth.check true))
      (reshuffling ++ [.answered 1 (.ok reshuffled), .replied 1 0 (.ok 4)]) 1 reshuffling
      reshuffled ∧
    ((create none (NodeHealth.check true)).after reshuffling).directory.snapshot.map Peer.triple ≠
      (Topology.normalize ((create none (NodeHealth.check true)).after reshuffling).selfAddress
        reshuffled).map Address.triple ∧
    exists d, Rebuilt ((create none (NodeHealth.check true)).after reshuffling) d
      (Topology.normalize ((create none (NodeHealth.check true)).after reshuffling).selfAddress
        reshuffled) 2 1 2 := by
  have hserial : forall e,
      e ∈ reshuffling ++ [.answered 1 (.ok reshuffled), .replied 1 0 (.ok 4)] -> e.IsSerial := by
    simp [reshuffling, Event.IsSerial]
  have htold : Told (create none (NodeHealth.check true))
      (reshuffling ++ [.answered 1 (.ok reshuffled), .replied 1 0 (.ok 4)]) 1 reshuffling
      reshuffled := by
    refine ⟨⟨[.replied 1 0 (.ok 4)], rfl⟩, ?_⟩
    cbv
  have hdiffers :
      ((create none (NodeHealth.check true)).after reshuffling).directory.snapshot.map Peer.triple ≠
        (Topology.normalize ((create none (NodeHealth.check true)).after reshuffling).selfAddress
          reshuffled).map Address.triple := by
    cbv
    decide
  have hend : ((create none (NodeHealth.check true)).after
      (reshuffling ++ [.answered 1 (.ok reshuffled), .replied 1 0 (.ok 4)])).stage? 1 =
        some (.finished (.ok (.rebuilt 2 1 2))) := by
    cbv
  rcases (rebuilt_of_differs none (NodeHealth.check true) hserial htold hdiffers).right _ hend with
    ⟨middle, event, created, kept, closed, _, _, hresult, hrebuilt⟩
  cases hresult
  exact ⟨hserial, htold, hdiffers, _, hrebuilt⟩

end Reconciler
end ClusterNode
