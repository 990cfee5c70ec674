import ClusterNode.Proofs.Reconciler.Directory
import Mathlib.Data.List.Find
import Mathlib.Data.List.Forall2

/-!
# From a query answer to a list of peers

The normalised answer is ranked, has the keys of the answer and marks the registered address. A list
of peer numbers lists addresses when the peers stand for them one by one. The published list does so
exactly when the topology is the same; the drafted one always does, with each peer either taken over
or new.
-/

namespace ClusterNode
namespace Topology

/-!
## Normalised answers
-/

/-- Strictly ascending, and at most one of them is the address of this node. -/
def Ranked (addresses : List Address) : Prop :=
  addresses.Pairwise fun a b =>
    a.precedes b = true ∧ ¬(a.isSelf = true ∧ b.isSelf = true)

theorem mem_key_distinctFrom (seen : List (String × UInt16)) (addresses : List Address)
    (key : String × UInt16) :
    key ∈ (distinctFrom seen addresses).map Address.key <->
      key ∈ addresses.map Address.key ∧ key ∉ seen := by
  induction addresses generalizing seen with
  | nil => simp [distinctFrom]
  | cons a rest ih =>
      rw [distinctFrom]
      split
      · rename_i hseen
        rw [ih, List.map_cons, List.mem_cons]
        constructor
        · intro h
          exact ⟨Or.inr h.left, h.right⟩
        · intro h
          rcases h with ⟨rfl | hmem, hnot⟩
          · exact absurd hseen hnot
          · exact ⟨hmem, hnot⟩
      · rename_i hfresh
        rw [List.map_cons, List.map_cons, List.mem_cons, List.mem_cons, ih, List.mem_cons]
        constructor
        · intro h
          rcases h with rfl | ⟨hmem, hnot⟩
          · exact ⟨Or.inl rfl, hfresh⟩
          · exact ⟨Or.inr hmem, fun hseen => hnot (Or.inr hseen)⟩
        · intro h
          by_cases hkey : key = a.key
          · exact Or.inl hkey
          · refine Or.inr ⟨h.left.resolve_left hkey, ?_⟩
            intro hseen
            exact hseen.elim hkey h.right

theorem mem_key_normalize (selfAddress : Option Address) (queried : List Address)
    (key : String × UInt16) :
    key ∈ (normalize selfAddress queried).map Address.key <->
      key ∈ queried.map Address.key := by
  have hsort := (Address.sort_perm ((distinct queried).map fun a =>
    a.withSelf (isRegistered selfAddress a))).map Address.key
  unfold normalize
  rw [hsort.mem_iff, List.map_map]
  have hdistinct := mem_key_distinctFrom [] queried key
  simpa [Function.comp_def, distinct] using hdistinct

theorem isSelf_of_mem_normalize {selfAddress : Option Address} {queried : List Address}
    {a : Address} (h : a ∈ normalize selfAddress queried) :
    a.isSelf = isRegistered selfAddress a := by
  unfold normalize at h
  rw [(Address.sort_perm _).mem_iff] at h
  rcases List.mem_map.mp h with ⟨b, _, rfl⟩
  cases selfAddress with
  | none => rfl
  | some s => simp [isRegistered, Address.same]

theorem isRegistered_iff (selfAddress : Option Address) (a : Address) :
    isRegistered selfAddress a = true <-> selfAddress.map Address.key = some a.key := by
  cases selfAddress with
  | none => simp [isRegistered]
  | some s => simp [isRegistered, Address.same_iff]

theorem key_eq_of_isRegistered {selfAddress : Option Address} {a b : Address}
    (ha : isRegistered selfAddress a = true) (hb : isRegistered selfAddress b = true) :
    a.key = b.key := by
  cases selfAddress with
  | none => cases ha
  | some s =>
      have hsa : s.key = a.key := (Address.same_iff s a).mp ha
      have hsb : s.key = b.key := (Address.same_iff s b).mp hb
      exact hsa.symm.trans hsb

theorem key_ne_of_precedes {a b : Address} (h : a.precedes b = true) : a.key ≠ b.key := by
  intro hkey
  have hcmp := (Address.compare_eq_eq_iff a b).mpr hkey
  simp [Address.precedes, hcmp] at h

theorem ranked_normalize (selfAddress : Option Address) (queried : List Address) :
    Ranked (normalize selfAddress queried) := by
  have hdistinct : ((distinct queried).map fun a =>
      a.withSelf (isRegistered selfAddress a)).Pairwise fun a b => a.key ≠ b.key := by
    rw [List.pairwise_map]
    exact distinctFrom_pairwise [] queried
  have hsorted : (normalize selfAddress queried).Pairwise fun a b =>
      a.precedes b = true := Address.pairwise_sort hdistinct
  refine hsorted.imp_of_mem ?_
  intro a b ha hb hab
  refine ⟨hab, ?_⟩
  intro ⟨hselfa, hselfb⟩
  rw [isSelf_of_mem_normalize ha] at hselfa
  rw [isSelf_of_mem_normalize hb] at hselfb
  exact key_ne_of_precedes hab (key_eq_of_isRegistered hselfa hselfb)

/-!
## Peers that stand for addresses

Peers are ranked as the addresses that they stand for, so two peers of a ranked list with the same
key are the same one.
-/

theorem stands_iff (p : Peer) (a : Address) :
    stands p a = true <-> p.address.key = a.key ∧ p.isSelf = a.isSelf := by
  simp [stands, Address.same_iff]

theorem stands_ofAddress (a : Address) : stands (Peer.ofAddress a) a = true :=
  (stands_iff _ _).mpr ⟨Peer.key_ofAddress a, Peer.isSelf_ofAddress a⟩

theorem stands_of_leadsTo {p q : Peer} {a : Address} (hpq : p.LeadsTo q)
    (h : stands p a = true) : stands q a = true := by
  rcases (stands_iff p a).mp h with ⟨hkey, hself⟩
  rw [stands_iff, hpq.left, hpq.isSelf_eq]
  exact ⟨hkey, hself⟩

/-- The numbers name peers that stand for the addresses, one by one. -/
def Lists (d : Directory) (ids : List PeerId) (addresses : List Address) : Prop :=
  List.Forall₂ (fun id a => exists p, d.peer? id = some p ∧ stands p a = true) ids addresses

theorem Lists.grows {d d' : Directory} {ids : List PeerId} {addresses : List Address}
    (h : Lists d ids addresses) (hgrows : d.Grows d') : Lists d' ids addresses := by
  refine h.imp ?_
  intro id a ⟨p, hp, hstands⟩
  rcases hgrows id p hp with ⟨q, hq, hpq⟩
  exact ⟨q, hq, stands_of_leadsTo hpq hstands⟩

theorem Lists.known {d : Directory} {ids : List PeerId} {addresses : List Address}
    (h : Lists d ids addresses) : forall id, id ∈ ids -> id < d.peers.length := by
  induction h with
  | nil =>
      intro id hid
      cases hid
  | cons hhead _ ih =>
      intro id hid
      rcases List.mem_cons.mp hid with rfl | hid
      · rcases hhead with ⟨p, hp, _⟩
        exact Directory.lt_length_of_peer? hp
      · exact ih id hid

theorem Lists.resolve {d : Directory} {ids : List PeerId} {addresses : List Address}
    (h : Lists d ids addresses) :
    List.Forall₂ (fun p a => stands p a = true) (d.resolve ids) addresses := by
  induction h with
  | nil => exact List.Forall₂.nil
  | cons hhead _ ih =>
      rcases hhead with ⟨p, hp, hstands⟩
      unfold Directory.resolve
      rw [List.filterMap_cons_some hp]
      exact List.Forall₂.cons hstands ih

theorem Lists.map_key {d : Directory} {ids : List PeerId} {addresses : List Address}
    (h : Lists d ids addresses) :
    (d.resolve ids).map (fun p => p.address.key) = addresses.map Address.key := by
  have hresolve := h.resolve
  clear h
  generalize d.resolve ids = peers at hresolve ⊢
  induction hresolve with
  | nil => rfl
  | cons hstands _ ih =>
      rw [List.map_cons, List.map_cons, ih, ((stands_iff _ _).mp hstands).left]

theorem exists_of_mem_left {α β : Type} {R : α -> β -> Prop} {xs : List α} {ys : List β}
    (h : List.Forall₂ R xs ys) {x : α} (hx : x ∈ xs) : exists y, y ∈ ys ∧ R x y := by
  induction h with
  | nil => cases hx
  | cons hhead _ ih =>
      rcases List.mem_cons.mp hx with rfl | hx
      · exact ⟨_, List.mem_cons_self, hhead⟩
      · rcases ih hx with ⟨y, hy, hxy⟩
        exact ⟨y, List.mem_cons_of_mem _ hy, hxy⟩

theorem ranked_of_stands {peers : List Peer} {addresses : List Address}
    (h : List.Forall₂ (fun p a => stands p a = true) peers addresses)
    (hranked : Ranked addresses) :
    peers.Pairwise fun p q =>
      p.address.precedes q.address = true ∧ ¬(p.isSelf = true ∧ q.isSelf = true) := by
  induction h with
  | nil => exact List.Pairwise.nil
  | cons hhead hrest ih =>
      rcases List.pairwise_cons.mp hranked with ⟨hfirst, htail⟩
      refine List.pairwise_cons.mpr ⟨?_, ih htail⟩
      intro q hq
      rcases exists_of_mem_left hrest hq with ⟨b, hb, hqb⟩
      rcases (stands_iff _ _).mp hhead with ⟨hkey, hself⟩
      rcases (stands_iff _ _).mp hqb with ⟨hkey', hself'⟩
      rw [Address.precedes_congr hkey hkey', hself, hself']
      exact hfirst b hb

theorem Lists.eq_of_key {d : Directory} {ids : List PeerId} {addresses : List Address}
    (h : Lists d ids addresses) (hranked : Ranked addresses) {n m : PeerId} {p q : Peer}
    (hn : n ∈ ids) (hm : m ∈ ids) (hp : d.peer? n = some p) (hq : d.peer? m = some q)
    (hkey : p.address.key = q.address.key) : n = m := by
  induction h with
  | nil => cases hn
  | @cons first a rest more hhead hrest ih =>
      rcases List.pairwise_cons.mp hranked with ⟨hfirst, htail⟩
      -- A peer of the rest has a later key than the first one.
      have hlater : forall other s t, other ∈ rest -> d.peer? first = some s ->
          d.peer? other = some t -> s.address.key ≠ t.address.key := by
        intro other s t hother hs ht
        rcases exists_of_mem_left hrest hother with ⟨b, hb, t', ht', hstands'⟩
        rcases hhead with ⟨s', hs', hstands⟩
        rw [hs] at hs'
        rw [ht] at ht'
        cases hs'
        cases ht'
        rw [((stands_iff s a).mp hstands).left, ((stands_iff t b).mp hstands').left]
        exact key_ne_of_precedes (hfirst b hb).left
      rcases List.mem_cons.mp hn with rfl | hnrest
      · rcases List.mem_cons.mp hm with rfl | hmrest
        · rfl
        · exact absurd hkey (hlater m p q hmrest hp hq)
      · rcases List.mem_cons.mp hm with rfl | hmrest
        · exact absurd hkey.symm (hlater n q p hnrest hq hp)
        · exact ih htail hnrest hmrest

/-- The topology is the same when the published peers stand for the addresses. -/
theorem sameTopology_resolve_iff {d : Directory} {ids : List PeerId}
    (hknown : forall id, id ∈ ids -> id < d.peers.length) (addresses : List Address) :
    sameTopology (d.resolve ids) addresses = true <-> Lists d ids addresses := by
  induction ids generalizing addresses with
  | nil =>
      cases addresses with
      | nil => exact iff_of_true rfl List.Forall₂.nil
      | cons a rest => exact iff_of_false (by simp [Directory.resolve, sameTopology]) (by rintro ⟨⟩)
  | cons id rest ih =>
      rcases Directory.exists_peer?_of_lt (hknown id List.mem_cons_self) with ⟨p, hp⟩
      have hrest : forall other, other ∈ rest -> other < d.peers.length := by
        intro other hother
        exact hknown other (List.mem_cons_of_mem _ hother)
      unfold Directory.resolve
      rw [List.filterMap_cons_some hp]
      cases addresses with
      | nil => exact iff_of_false (by simp [sameTopology]) (by rintro ⟨⟩)
      | cons a more =>
          show (stands p a && sameTopology (d.resolve rest) more) = true <->
            Lists d (id :: rest) (a :: more)
          rw [Bool.and_eq_true, ih hrest more]
          constructor
          · intro h
            exact List.Forall₂.cons ⟨p, hp, h.left⟩ h.right
          · intro h
            cases h with
            | cons hhead htail =>
                rcases hhead with ⟨q, hq, hstands⟩
                rw [hp] at hq
                cases hq
                exact ⟨hstands, htail⟩

/-!
## Drafts

A draft numbers its new peers on from the peers that are there, in the order of the addresses. A
published peer that stands for an address is the one to take over, and the newcomers are the
addresses without one.
-/

def newcomers (d : Directory) (current : List PeerId) (addresses : List Address) :
    List Address :=
  addresses.filter fun a => (existing? d current a).isNone

def stayers (d : Directory) (current : List PeerId) (addresses : List Address) :
    List Address :=
  addresses.filter fun a => (existing? d current a).isSome

/-- The numbers of a draft whose next new peer has the number `fresh`. -/
def numbers (d : Directory) (current : List PeerId) : PeerId -> List Address -> List PeerId
  | _, [] => []
  | fresh, a :: rest =>
      match existing? d current a with
      | some id => id :: numbers d current fresh rest
      | none => fresh :: numbers d current (fresh + 1) rest

theorem exists_of_existing?_eq_some {d : Directory} {current : List PeerId} {a : Address}
    {id : PeerId} (h : existing? d current a = some id) :
    id ∈ current ∧ exists p, d.peer? id = some p ∧ stands p a = true := by
  refine ⟨List.mem_of_find?_eq_some h, ?_⟩
  have hfound := List.find?_some h
  cases hp : d.peer? id with
  | none => simp [hp] at hfound
  | some p =>
      refine ⟨p, rfl, ?_⟩
      simpa [hp] using hfound

theorem existing?_eq_some {d : Directory} {current : List PeerId} {addresses : List Address}
    (hlists : Lists d current addresses) (hranked : Ranked addresses) {n : PeerId} {p : Peer}
    (hn : n ∈ current) (hp : d.peer? n = some p) {a : Address} (hstands : stands p a = true) :
    existing? d current a = some n := by
  cases hfind : existing? d current a with
  | none =>
      have hnot := List.find?_eq_none.mp hfind n hn
      rw [hp] at hnot
      exact absurd hstands hnot
  | some m =>
      rcases exists_of_existing?_eq_some hfind with ⟨hm, q, hq, hstands'⟩
      have hkey : q.address.key = p.address.key :=
        ((stands_iff q a).mp hstands').left.trans ((stands_iff p a).mp hstands).left.symm
      rw [hlists.eq_of_key hranked hm hn hq hp hkey]

theorem existing?_append {d : Directory} {current : List PeerId}
    (hknown : forall id, id ∈ current -> id < d.peers.length) (more : List Peer)
    (a : Address) :
    existing? { d with peers := d.peers ++ more } current a = existing? d current a := by
  apply List.find?_congr
  intro id hid
  have hold : Directory.peer? { d with peers := d.peers ++ more } id = d.peer? id :=
    List.getElem?_append_left (hknown id hid)
  rw [hold]

theorem foldl_place {d : Directory} {current : List PeerId}
    (hknown : forall id, id ∈ current -> id < d.peers.length)
    (addresses : List Address) (fresh : List Peer) (next : List PeerId)
    (created kept : Nat) :
    addresses.foldl (Draft.place current)
        { directory := { d with peers := d.peers ++ fresh }, next, created, kept } =
      { directory :=
          { d with
            peers := d.peers ++ (fresh ++ (newcomers d current addresses).map Peer.ofAddress) }
        next := next ++ numbers d current (d.peers.length + fresh.length) addresses
        created := created + (newcomers d current addresses).length
        kept := kept + (stayers d current addresses).length } := by
  induction addresses generalizing fresh next created kept with
  | nil => simp [newcomers, stayers, numbers]
  | cons a rest ih =>
      rw [List.foldl_cons, Draft.place, existing?_append hknown]
      cases hfind : existing? d current a with
      | some id =>
          dsimp only
          rw [ih]
          simp [newcomers, stayers, numbers, hfind, Nat.add_assoc, Nat.add_comm 1]
      | none =>
          have hadd : Directory.add { d with peers := d.peers ++ fresh } (Peer.ofAddress a) =
              ({ d with peers := d.peers ++ (fresh ++ [Peer.ofAddress a]) },
                d.peers.length + fresh.length) := by
            simp [Directory.add]
          rw [hadd]
          dsimp only
          rw [ih]
          simp [newcomers, stayers, numbers, hfind, Nat.add_assoc, Nat.add_comm 1]

theorem draft_eq {d : Directory} {current : List PeerId}
    (hknown : forall id, id ∈ current -> id < d.peers.length) (addresses : List Address) :
    draft d current addresses =
      { directory :=
          { d with
            peers := d.peers ++ (newcomers d current addresses).map Peer.ofAddress }
        next := numbers d current d.peers.length addresses
        created := (newcomers d current addresses).length
        kept := (stayers d current addresses).length } := by
  have hfold := foldl_place hknown addresses [] [] 0 0
  simpa [draft] using hfold

theorem mem_numbers {d : Directory} {current : List PeerId} {fresh : PeerId}
    {addresses : List Address} {id : PeerId} (h : id ∈ numbers d current fresh addresses) :
    id ∈ current ∨ fresh ≤ id := by
  induction addresses generalizing fresh with
  | nil => cases h
  | cons a rest ih =>
      rw [numbers] at h
      cases hfind : existing? d current a with
      | some other =>
          rw [hfind] at h
          rcases List.mem_cons.mp h with rfl | h
          · exact Or.inl (exists_of_existing?_eq_some hfind).left
          · exact ih h
      | none =>
          rw [hfind] at h
          rcases List.mem_cons.mp h with rfl | h
          · exact Or.inr (Nat.le_refl _)
          · exact (ih h).imp_right (Nat.le_trans (Nat.le_succ fresh))

theorem mem_numbers_of_existing? {d : Directory} {current : List PeerId} {a : Address}
    {n : PeerId} (hfind : existing? d current a = some n) (fresh : PeerId)
    {addresses : List Address} (ha : a ∈ addresses) :
    n ∈ numbers d current fresh addresses := by
  induction addresses generalizing fresh with
  | nil => cases ha
  | cons b rest ih =>
      rw [numbers]
      rcases List.mem_cons.mp ha with rfl | ha
      · rw [hfind]
        exact List.mem_cons_self
      · cases existing? d current b with
        | some m => exact List.mem_cons_of_mem m (ih fresh ha)
        | none => exact List.mem_cons_of_mem fresh (ih (fresh + 1) ha)

def calledFor (d : Directory) (addresses : List Address) (n : PeerId) : Bool :=
  match d.peer? n with
  | some p => addresses.any (stands p)
  | none => false

theorem exists_existing?_of_mem_numbers {d : Directory} {current : List PeerId} {fresh : PeerId}
    {addresses : List Address} {n : PeerId} (hn : n < fresh)
    (h : n ∈ numbers d current fresh addresses) :
    exists a, a ∈ addresses ∧ existing? d current a = some n := by
  induction addresses generalizing fresh with
  | nil => cases h
  | cons a rest ih =>
      rw [numbers] at h
      cases hfind : existing? d current a with
      | some m =>
          rw [hfind] at h
          rcases List.mem_cons.mp h with rfl | h
          · exact ⟨a, List.mem_cons_self, hfind⟩
          · rcases ih hn h with ⟨b, hb, hfound⟩
            exact ⟨b, List.mem_cons_of_mem a hb, hfound⟩
      | none =>
          rw [hfind] at h
          rcases List.mem_cons.mp h with rfl | h
          · exact absurd hn (Nat.lt_irrefl _)
          · rcases ih (Nat.lt_succ_of_lt hn) h with ⟨b, hb, hfound⟩
            exact ⟨b, List.mem_cons_of_mem a hb, hfound⟩

/-- A draft takes over the peers of a ranked list that stand for one of its addresses. -/
theorem mem_numbers_iff {d : Directory} {current : List PeerId} {listed : List Address}
    (hlists : Lists d current listed) (hranked : Ranked listed) (addresses : List Address)
    {n : PeerId} (hn : n ∈ current) :
    n ∈ numbers d current d.peers.length addresses <-> calledFor d addresses n = true := by
  rcases Directory.exists_peer?_of_lt (hlists.known n hn) with ⟨p, hp⟩
  unfold calledFor
  rw [hp]
  dsimp only
  rw [List.any_eq_true]
  constructor
  · intro hmem
    rcases exists_existing?_of_mem_numbers (hlists.known n hn) hmem with ⟨a, ha, hfind⟩
    rcases exists_of_existing?_eq_some hfind with ⟨_, q, hq, hstands⟩
    rw [hp] at hq
    cases hq
    exact ⟨a, ha, hstands⟩
  · intro ⟨a, ha, hstands⟩
    exact mem_numbers_of_existing? (existing?_eq_some hlists hranked hn hp hstands) _ ha

theorem superseded_numbers {d : Directory} {current : List PeerId} {listed : List Address}
    (hlists : Lists d current listed) (hranked : Ranked listed) (addresses : List Address) :
    superseded current (numbers d current d.peers.length addresses) =
      current.filter fun n => !calledFor d addresses n := by
  apply List.filter_congr
  intro n hn
  rw [Bool.eq_iff_iff, Bool.not_eq_true', Bool.not_eq_true', ← Bool.not_eq_true,
    ← Bool.not_eq_true, List.contains_iff_mem, mem_numbers_iff hlists hranked addresses hn]

theorem lists_numbers {d table : Directory} {current : List PeerId} {before : List Peer}
    {addresses : List Address} (hgrows : d.Grows table)
    (htable : table.peers = before ++ (newcomers d current addresses).map Peer.ofAddress) :
    Lists table (numbers d current before.length addresses) addresses := by
  induction addresses generalizing before with
  | nil => exact List.Forall₂.nil
  | cons a rest ih =>
      rw [numbers]
      cases hfind : existing? d current a with
      | some id =>
          rcases exists_of_existing?_eq_some hfind with ⟨_, p, hp, hstands⟩
          rcases hgrows id p hp with ⟨q, hq, hpq⟩
          refine List.Forall₂.cons ⟨q, hq, stands_of_leadsTo hpq hstands⟩ (ih ?_)
          simpa [newcomers, hfind] using htable
      | none =>
          have htable' : table.peers = before ++ [Peer.ofAddress a] ++
              (newcomers d current rest).map Peer.ofAddress := by
            simpa [newcomers, hfind] using htable
          have hp : table.peer? before.length = some (Peer.ofAddress a) := by
            simp [Directory.peer?, htable']
          refine List.Forall₂.cons ⟨_, hp, stands_ofAddress a⟩ ?_
          have hrest := ih htable'
          rw [List.length_append, List.length_singleton] at hrest
          exact hrest

end Topology

/-!
## Members of a small cluster

The runs that are followed step by step are runs over these members.
-/

def memberA : Address := { host := "a", port := 1 }

def memberB : Address := { host := "b", port := 7 }

def memberC : Address := { host := "c", port := 3 }

end ClusterNode
