import ClusterNode.Proofs.Address.Order
import ClusterNode.Reconciler.Run

/-!
# How a directory changes

Peers are never removed from a directory, and a peer keeps its address and its kind; only its link
goes on, from created over connected to closed. A list of peers is fit for readers when it is ranked
by address, names no address of this node twice and holds no closed link.
-/

namespace ClusterNode

/-!
## Links and peers
-/

/-- What may become of a link. The link of this node stays as it is. -/
inductive Link.LeadsTo : Link -> Link -> Prop where
  | same (l : Link) : LeadsTo l l
  | connect (channel : Channel) : LeadsTo Link.created (Link.connected channel)
  | close {l : Link} : l ≠ Link.here -> LeadsTo l Link.closed

theorem Link.LeadsTo.trans {a b c : Link} (hab : a.LeadsTo b) (hbc : b.LeadsTo c) :
    a.LeadsTo c := by
  cases hbc with
  | same _ => exact hab
  | connect channel =>
      cases hab with
      | same _ => exact LeadsTo.connect channel
  | close hb =>
      apply LeadsTo.close
      intro ha
      subst ha
      cases hab with
      | same _ => exact hb rfl
      | close ha => exact ha rfl

namespace Peer

def LeadsTo (p q : Peer) : Prop :=
  q.address = p.address ∧ p.link.LeadsTo q.link

theorem LeadsTo.refl (p : Peer) : p.LeadsTo p :=
  ⟨rfl, Link.LeadsTo.same p.link⟩

theorem LeadsTo.trans {p q s : Peer} (hpq : p.LeadsTo q) (hqs : q.LeadsTo s) :
    p.LeadsTo s :=
  ⟨hqs.left.trans hpq.left, hpq.right.trans hqs.right⟩

theorem LeadsTo.isSelf_eq {p q : Peer} (h : p.LeadsTo q) : q.isSelf = p.isSelf := by
  cases p with
  | mk address link =>
      cases q with
      | mk address' link' =>
          cases h.right with
          | same _ => rfl
          | connect _ => rfl
          | close hne => simp_all [isSelf]

theorem LeadsTo.link_eq_closed {p q : Peer} (h : p.LeadsTo q) (hp : p.link = .closed) :
    q.link = .closed := by
  cases p with
  | mk address link =>
      cases q with
      | mk address' link' => cases h.right <;> simp_all

theorem leadsTo_finishConnect (p : Peer) (answer : Except ClusterError Channel) :
    p.LeadsTo (p.finishConnect answer).1 := by
  refine ⟨address_finishConnect p answer, ?_⟩
  cases p with
  | mk address link =>
      cases answer with
      | error e => exact Link.LeadsTo.same link
      | ok channel =>
          cases link with
          | created => exact Link.LeadsTo.connect channel
          | here => exact Link.LeadsTo.same _
          | connected _ => exact Link.LeadsTo.same _
          | closed => exact Link.LeadsTo.same _

theorem leadsTo_close (p : Peer) : p.LeadsTo p.close := by
  refine ⟨address_close p, ?_⟩
  cases p with
  | mk address link =>
      cases link with
      | here => exact Link.LeadsTo.same _
      | created => exact Link.LeadsTo.close (by simp)
      | connected _ => exact Link.LeadsTo.close (by simp)
      | closed => exact Link.LeadsTo.same _

theorem link_finishConnect_ne_closed {p : Peer} (h : p.link ≠ .closed)
    (answer : Except ClusterError Channel) :
    (p.finishConnect answer).1.link ≠ .closed := by
  cases p with
  | mk address link =>
      cases answer <;> cases link <;> simp_all [finishConnect]

theorem link_close_of_isSelf_false {p : Peer} (h : p.isSelf = false) :
    p.close.link = .closed := by
  cases p with
  | mk address link => cases link <;> simp_all [close, isSelf]

theorem isSelf_ofAddress_eq (a : Address) :
    (ofAddress a).isSelf = (ofAddress a).address.isSelf := by
  unfold ofAddress
  split <;> rfl

theorem link_ofAddress_ne_closed (a : Address) : (ofAddress a).link ≠ .closed := by
  unfold ofAddress
  split <;> simp [ofSelf, ofRemote]

theorem state_eq_closed_iff (p : Peer) : p.state = .closed <-> p.link = .closed := by
  cases p with
  | mk address link => cases link <;> simp [state]

theorem state_eq_created_iff (p : Peer) : p.state = .created <-> p.link = .created := by
  cases p with
  | mk address link => cases link <;> simp [state]

theorem isSelf_eq_true_iff (p : Peer) : p.isSelf = true <-> p.link = .here := by
  simp [isSelf]

end Peer

/-!
## Tables of peers
-/

namespace Directory

/-- Each peer is still there under its number. -/
def Grows (d d' : Directory) : Prop :=
  forall (id : PeerId) (p : Peer), d.peer? id = some p ->
    exists q, d'.peer? id = some q ∧ p.LeadsTo q

theorem Grows.refl (d : Directory) : d.Grows d := by
  intro id p hp
  exact ⟨p, hp, Peer.LeadsTo.refl p⟩

theorem Grows.trans {d₁ d₂ d₃ : Directory} (h₁₂ : d₁.Grows d₂) (h₂₃ : d₂.Grows d₃) :
    d₁.Grows d₃ := by
  intro id p hp
  rcases h₁₂ id p hp with ⟨q, hq, hpq⟩
  rcases h₂₃ id q hq with ⟨s, hs, hqs⟩
  exact ⟨s, hs, hpq.trans hqs⟩

theorem lt_length_of_peer? {d : Directory} {id : PeerId} {p : Peer}
    (h : d.peer? id = some p) : id < d.peers.length :=
  (List.getElem?_eq_some_iff.mp h).1

theorem exists_peer?_of_lt {d : Directory} {id : PeerId} (h : id < d.peers.length) :
    exists p, d.peer? id = some p :=
  ⟨d.peers[id], List.getElem?_eq_getElem h⟩

theorem Grows.length_le {d d' : Directory} (h : d.Grows d') :
    d.peers.length ≤ d'.peers.length := by
  by_contra hlt
  rcases exists_peer?_of_lt (Nat.lt_of_not_le hlt) with ⟨p, hp⟩
  rcases h _ p hp with ⟨q, hq, _⟩
  exact Nat.lt_irrefl _ (lt_length_of_peer? hq)

theorem peer?_modify (d : Directory) (id other : PeerId) (f : Peer -> Peer) :
    (d.modify id f).peer? other =
      (d.peer? other).map fun p => if id = other then f p else p := by
  by_cases h : id = other
  · subst h
    simp [peer?_modify_same]
  · simp [peer?_modify_ne d f h, h]

theorem modify_of_peer? {d : Directory} {id : PeerId} {p : Peer} (h : d.peer? id = some p)
    (f : Peer -> Peer) : d.modify id (fun _ => f p) = d.modify id f := by
  unfold modify
  congr 1
  apply List.ext_getElem?
  intro n
  rw [List.getElem?_modify, List.getElem?_modify]
  by_cases hn : id = n
  · subst hn
    have hp : d.peers[id]? = some p := h
    simp [hp]
  · simp [hn]

theorem exists_of_peer?_modify {d : Directory} {id other : PeerId} {f : Peer -> Peer} {q : Peer}
    (h : (d.modify id f).peer? other = some q) :
    exists p, d.peer? other = some p ∧ (q = p ∨ q = f p) := by
  rw [peer?_modify] at h
  rcases Option.map_eq_some_iff.mp h with ⟨p, hp, rfl⟩
  refine ⟨p, hp, ?_⟩
  split
  · exact Or.inr rfl
  · exact Or.inl rfl

theorem peer?_append_eq_some {d : Directory} {more : List Peer} {id : PeerId} {p : Peer}
    (h : Directory.peer? { d with peers := d.peers ++ more } id = some p) :
    d.peer? id = some p ∨ p ∈ more := by
  rcases Nat.lt_or_ge id d.peers.length with hlt | hge
  · left
    rwa [peer?, List.getElem?_append_left hlt] at h
  · right
    rw [peer?, List.getElem?_append_right hge] at h
    exact List.mem_of_getElem? h

theorem grows_modify (d : Directory) (id : PeerId) {f : Peer -> Peer}
    (hf : forall p : Peer, p.LeadsTo (f p)) : d.Grows (d.modify id f) := by
  intro other p hp
  rw [peer?_modify, hp]
  refine ⟨_, rfl, ?_⟩
  split
  · exact hf p
  · exact Peer.LeadsTo.refl p

theorem grows_append (d : Directory) (more : List Peer) :
    d.Grows { d with peers := d.peers ++ more } := by
  intro id p hp
  refine ⟨p, ?_, Peer.LeadsTo.refl p⟩
  show (d.peers ++ more)[id]? = some p
  rw [List.getElem?_append_left (lt_length_of_peer? hp)]
  exact hp

theorem grows_publish (d : Directory) (ids : List PeerId) : d.Grows (d.publish ids) :=
  Grows.refl d

theorem grows_close (d : Directory) (id : PeerId) : d.Grows (d.close id) :=
  grows_modify d id Peer.leadsTo_close

theorem Grows.isRemote_eq {d d' : Directory} (h : d.Grows d') {id : PeerId}
    (hid : id < d.peers.length) : d'.isRemote id = d.isRemote id := by
  rcases exists_peer?_of_lt hid with ⟨p, hp⟩
  rcases h id p hp with ⟨q, hq, hpq⟩
  simp [isRemote, hp, hq, hpq.isSelf_eq]

theorem isRemote_eq_true_iff (d : Directory) (id : PeerId) :
    d.isRemote id = true <-> exists p, d.peer? id = some p ∧ p.isSelf = false := by
  unfold isRemote
  cases d.peer? id with
  | none => simp
  | some p => simp

theorem isCreated_eq_true_iff (d : Directory) (id : PeerId) :
    d.isCreated id = true <-> exists p, d.peer? id = some p ∧ p.link = .created := by
  unfold isCreated
  cases d.peer? id with
  | none => simp
  | some p =>
      cases p with
      | mk address link => cases link <;> simp [Peer.state]

theorem isRemote_of_isCreated {d : Directory} {id : PeerId} (h : d.isCreated id = true) :
    d.isRemote id = true := by
  rcases (isCreated_eq_true_iff d id).mp h with ⟨p, hp, hlink⟩
  exact (isRemote_eq_true_iff d id).mpr ⟨p, hp, by simp [Peer.isSelf, hlink]⟩

end Directory

/-!
## Closing many peers
-/

namespace Reconciler

open Directory

theorem grows_closeAll (d : Directory) (ids : List PeerId) : d.Grows (closeAll d ids) := by
  induction ids generalizing d with
  | nil => exact Grows.refl d
  | cons id rest ih => exact (grows_close d id).trans (ih (d.close id))

@[simp] theorem published_closeAll (d : Directory) (ids : List PeerId) :
    (closeAll d ids).published = d.published := by
  induction ids generalizing d with
  | nil => rfl
  | cons id rest ih => exact ih (d.close id)

end Reconciler
end ClusterNode
