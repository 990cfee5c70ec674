import ClusterNode.Proofs.Reconciler.Share

/-!
# What a run depends on

What a run decides depends on the addresses that it is told of, on the address of this node, and on
the addresses and marks of the published peers, and on nothing else: neither on the links of the
peers nor on peers that are not on the list. Two reconcilers that are alike in these points lead to
the same outcome, to lists of the same contents and to the same closes.
-/

namespace ClusterNode

/-- Two peers of two tables that correspond to each other: the same number, or two numbers that were
not in use once, with the same address and mark. -/
def Twin (old : Nat) (d d' : Directory) (n m : PeerId) : Prop :=
  (n = m ∨ old ≤ n ∧ old ≤ m) ∧ exists p q, d.peer? n = some p ∧ d'.peer? m = some q ∧
    q.address = p.address ∧ q.isSelf = p.isSelf

abbrev Twins (old : Nat) (d d' : Directory) : List PeerId -> List PeerId -> Prop :=
  List.Forall₂ (Twin old d d')

/-- Two plans for lists of the same contents. -/
inductive Plan.Alike (old : Nat) (d d' : Directory) : Plan -> Plan -> Prop where
  | keep : Alike old d d' keep keep
  | replace {next next' : List PeerId} (created kept : Nat) : Twins old d d' next next' ->
      Alike old d d' (replace next created kept) (replace next' created kept)

/-- Two lists of the same contents are published, or two peers that correspond are closed. -/
inductive Effect.Alike (old : Nat) (d d' : Directory) : Effect -> Effect -> Prop where
  | published {next next' : List PeerId} : Twins old d d' next next' ->
      Alike old d d' (published next) (published next')
  | closed {n m : PeerId} : Twin old d d' n m -> Alike old d d' (closed n) (closed m)

section Twins

variable {old : Nat} {d d' t t' : Directory} {n m : PeerId} {ids ids' : List PeerId}

theorem Twin.grows (h : Twin old d d' n m) (hgrows : d.Grows t) (hgrows' : d'.Grows t') :
    Twin old t t' n m := by
  rcases h with ⟨hsame, p, q, hp, hq, haddress, hself⟩
  rcases hgrows n p hp with ⟨p', hp', hpp'⟩
  rcases hgrows' m q hq with ⟨q', hq', hqq'⟩
  refine ⟨hsame, p', q', hp', hq', ?_, ?_⟩
  · rw [hqq'.left, haddress, hpp'.left]
  · rw [hqq'.isSelf_eq, hself, hpp'.isSelf_eq]

theorem Twins.grows (h : Twins old d d' ids ids') (hgrows : d.Grows t) (hgrows' : d'.Grows t') :
    Twins old t t' ids ids' :=
  List.Forall₂.imp (fun _ _ htwin => htwin.grows hgrows hgrows') h

theorem twins_self (old : Nat) (hknown : forall id, id ∈ ids -> id < d.peers.length) :
    Twins old d d ids ids := by
  apply List.forall₂_same.mpr
  intro n hn
  rcases Directory.exists_peer?_of_lt (hknown n hn) with ⟨p, hp⟩
  exact ⟨Or.inl rfl, p, p, hp, hp, rfl, rfl⟩

theorem Twin.isRemote_eq (h : Twin old d d' n m) : d'.isRemote m = d.isRemote n := by
  rcases h with ⟨_, p, q, hp, hq, _, hself⟩
  unfold Directory.isRemote
  rw [hp, hq]
  dsimp only
  rw [hself]

theorem Plan.Alike.twins_list {plan plan' : Plan} (h : Plan.Alike old d d' plan plan')
    (hgrows : d.Grows t) (hgrows' : d'.Grows t') (hids : Twins old t t' ids ids') :
    Twins old t t' (plan.list ids) (plan'.list ids') := by
  cases h with
  | keep => exact hids
  | replace created kept htwins => exact Twins.grows htwins hgrows hgrows'

theorem Effect.Alike.grows {e e' : Effect} (h : Effect.Alike old d d' e e') (hgrows : d.Grows t)
    (hgrows' : d'.Grows t') : Effect.Alike old t t' e e' := by
  cases h with
  | published htwins => exact Effect.Alike.published (Twins.grows htwins hgrows hgrows')
  | closed htwin => exact Effect.Alike.closed (htwin.grows hgrows hgrows')

end Twins

namespace Topology

section Congruence

variable {old : Nat} {d d' : Directory} {current current' : List PeerId}

theorem stands_congr {p q : Peer} (haddress : q.address = p.address)
    (hself : q.isSelf = p.isSelf) (a : Address) : stands q a = stands p a := by
  unfold stands
  rw [haddress, hself]

theorem sameTopology_congr (h : Twins old d d' current current') (addresses : List Address) :
    sameTopology (d'.resolve current') addresses = sameTopology (d.resolve current) addresses := by
  induction h generalizing addresses with
  | nil => rfl
  | cons hhead _ ih =>
      rcases hhead with ⟨_, p, q, hp, hq, haddress, hself⟩
      unfold Directory.resolve at ih ⊢
      rw [List.filterMap_cons_some hp, List.filterMap_cons_some hq]
      cases addresses with
      | nil => rfl
      | cons a more =>
          rw [sameTopology, sameTopology, ih more, stands_congr haddress hself]

/-- Both lists have a peer to take over for an address, or neither has one. -/
theorem existing?_cases (h : Twins old d d' current current') (a : Address) :
    (existing? d current a = none ∧ existing? d' current' a = none) ∨
      exists n m, existing? d current a = some n ∧ existing? d' current' a = some m ∧
        Twin old d d' n m := by
  induction h with
  | nil => exact Or.inl ⟨rfl, rfl⟩
  | @cons n m _ _ hhead _ ih =>
      have htwin := hhead
      rcases hhead with ⟨_, p, q, hp, hq, haddress, hself⟩
      unfold existing? at ih ⊢
      rw [List.find?_cons, List.find?_cons, hp, hq]
      dsimp only
      rw [stands_congr haddress hself]
      cases stands p a with
      | true => exact Or.inr ⟨n, m, rfl, rfl, htwin⟩
      | false => exact ih

theorem isSome_existing?_congr (h : Twins old d d' current current') (a : Address) :
    (existing? d' current' a).isSome = (existing? d current a).isSome := by
  rcases existing?_cases h a with ⟨hfind, hfind'⟩ | ⟨n, m, hfind, hfind', _⟩
  · rw [hfind, hfind']
  · rw [hfind, hfind']
    rfl

theorem newcomers_congr (h : Twins old d d' current current') (addresses : List Address) :
    newcomers d' current' addresses = newcomers d current addresses := by
  apply List.filter_congr
  intro a _
  rw [← Option.not_isSome, ← Option.not_isSome, isSome_existing?_congr h]

theorem stayers_congr (h : Twins old d d' current current') (addresses : List Address) :
    stayers d' current' addresses = stayers d current addresses := by
  apply List.filter_congr
  intro a _
  rw [isSome_existing?_congr h]

theorem twins_numbers {table table' : Directory} (h : Twins old d d' current current')
    (hgrows : d.Grows table) (hgrows' : d'.Grows table') {before before' : List Peer}
    (hfresh : before.length = before'.length ∨ old ≤ before.length ∧ old ≤ before'.length)
    {addresses : List Address}
    (htable : table.peers = before ++ (newcomers d current addresses).map Peer.ofAddress)
    (htable' : table'.peers = before' ++ (newcomers d' current' addresses).map Peer.ofAddress) :
    Twins old table table' (numbers d current before.length addresses)
      (numbers d' current' before'.length addresses) := by
  induction addresses generalizing before before' with
  | nil => exact List.Forall₂.nil
  | cons a rest ih =>
      rw [numbers, numbers]
      rcases existing?_cases h a with ⟨hfind, hfind'⟩ | ⟨n, m, hfind, hfind', htwin⟩
      · rw [hfind, hfind']
        have hnext : table.peers = before ++ [Peer.ofAddress a] ++
            (newcomers d current rest).map Peer.ofAddress := by
          simpa [newcomers, hfind] using htable
        have hnext' : table'.peers = before' ++ [Peer.ofAddress a] ++
            (newcomers d' current' rest).map Peer.ofAddress := by
          simpa [newcomers, hfind'] using htable'
        have hp : table.peer? before.length = some (Peer.ofAddress a) := by
          simp [Directory.peer?, hnext]
        have hq : table'.peer? before'.length = some (Peer.ofAddress a) := by
          simp [Directory.peer?, hnext']
        have hfresh' : (before ++ [Peer.ofAddress a]).length =
            (before' ++ [Peer.ofAddress a]).length ∨
              old ≤ (before ++ [Peer.ofAddress a]).length ∧
                old ≤ (before' ++ [Peer.ofAddress a]).length := by
          rw [List.length_append, List.length_append]
          omega
        refine List.Forall₂.cons ⟨hfresh, _, _, hp, hq, rfl, rfl⟩ ?_
        have hrest := ih hfresh' hnext hnext'
        rw [List.length_append, List.length_append, List.length_singleton] at hrest
        exact hrest
      · rw [hfind, hfind']
        refine List.Forall₂.cons (htwin.grows hgrows hgrows') (ih hfresh ?_ ?_)
        · simpa [newcomers, hfind] using htable
        · simpa [newcomers, hfind'] using htable'

theorem calledFor_congr {n m : PeerId} (h : Twin old d d' n m) (addresses : List Address) :
    calledFor d' addresses m = calledFor d addresses n := by
  rcases h with ⟨_, p, q, hp, hq, haddress, hself⟩
  unfold calledFor
  rw [hp, hq]
  dsimp only
  rw [funext (stands_congr haddress hself)]

end Congruence

end Topology

namespace Reconciler

def Listed (r : Reconciler) : Prop :=
  exists addresses, Topology.Ranked addresses ∧
    Topology.Lists r.directory r.directory.published addresses

theorem Listed.known {r : Reconciler} (h : r.Listed) :
    forall id, id ∈ r.directory.published -> id < r.directory.peers.length := by
  rcases h with ⟨addresses, _, hlists⟩
  exact hlists.known

/-- The same address of this node, and published lists of the same contents. -/
structure Alike (old : Nat) (r r' : Reconciler) : Prop where
  self : r'.selfAddress = r.selfAddress
  twins : Twins old r.directory r'.directory r.directory.published r'.directory.published
  fresh : r.directory.peers.length = r'.directory.peers.length ∨
    old ≤ r.directory.peers.length ∧ old ≤ r'.directory.peers.length

section Alike

variable {old : Nat} {r r' : Reconciler}

theorem Alike.confirms_eq (h : Alike old r r') (queried : List Address) :
    r'.confirms queried = r.confirms queried := by
  unfold confirms Directory.snapshot
  rw [h.self]
  exact Topology.sameTopology_congr h.twins _

theorem Alike.twins_nextOf (h : Alike old r r') (queried : List Address) :
    Twins old (r.drafted queried).directory (r'.drafted queried).directory (r.nextOf queried)
      (r'.nextOf queried) := by
  have hnumbers := @Topology.twins_numbers old r.directory r'.directory r.directory.published
    r'.directory.published (r.drafted queried).directory (r'.drafted queried).directory h.twins
    (Directory.grows_append _ _) (Directory.grows_append _ _) r.directory.peers
    r'.directory.peers h.fresh (Topology.normalize r.selfAddress queried)
  unfold nextOf
  rw [h.self]
  apply hnumbers rfl
  unfold drafted Reconciler.fresh
  rw [h.self]

variable (hlisted : r.Listed) (hlisted' : r'.Listed)

include hlisted hlisted'

theorem Alike.twins_leaving (h : Alike old r r') (queried : List Address) :
    Twins old r.directory r'.directory
      (leaving r.directory r.directory.published (r.nextOf queried))
      (leaving r'.directory r'.directory.published (r'.nextOf queried)) := by
  rcases hlisted with ⟨listed, hranked, hlists⟩
  rcases hlisted' with ⟨listed', hranked', hlists'⟩
  unfold leaving nextOf
  rw [Topology.superseded_numbers hlists hranked, Topology.superseded_numbers hlists' hranked',
    h.self]
  refine List.rel_filter ?_ (List.rel_filter ?_ h.twins)
  · intro n m htwin
    dsimp only
    rw [htwin.isRemote_eq]
  · intro n m htwin
    dsimp only
    rw [Topology.calledFor_congr htwin]

theorem Alike.outcomeOf_eq (h : Alike old r r') (queried : List Address) :
    r'.outcomeOf queried = r.outcomeOf queried := by
  have hconfirms := h.confirms_eq queried
  unfold outcomeOf
  by_cases hkeeps : r.confirms queried = true
  · rw [decision_of_confirms hkeeps, decision_of_confirms (hconfirms.trans hkeeps)]
    rfl
  · have hleaving := (h.twins_leaving hlisted hlisted' queried).length_eq
    rw [decision_of_not_confirms hlisted.known hkeeps,
      decision_of_not_confirms hlisted'.known (hconfirms ▸ hkeeps)]
    unfold planOf Plan.outcome
    dsimp only
    rw [hleaving, h.self, Topology.newcomers_congr h.twins, Topology.stayers_congr h.twins]

theorem Alike.decision_alike (h : Alike old r r') (queried : List Address) :
    Plan.Alike old (r.staged queried) (r'.staged queried) (r.decision queried)
      (r'.decision queried) := by
  have hconfirms := h.confirms_eq queried
  by_cases hkeeps : r.confirms queried = true
  · rw [decision_of_confirms hkeeps, decision_of_confirms (hconfirms.trans hkeeps)]
    exact Plan.Alike.keep
  · have hkeeps' : ¬r'.confirms queried = true := hconfirms ▸ hkeeps
    have hnext := h.twins_nextOf queried
    rw [decision_of_not_confirms hlisted.known hkeeps,
      decision_of_not_confirms hlisted'.known hkeeps',
      staged_of_not_confirms hlisted.known hkeeps,
      staged_of_not_confirms hlisted'.known hkeeps']
    unfold planOf
    rw [h.self, Topology.newcomers_congr h.twins, Topology.stayers_congr h.twins]
    exact Plan.Alike.replace _ _ hnext

theorem Alike.commitsOf_alike (h : Alike old r r') (queried : List Address) :
    List.Forall₂ (Effect.Alike old (r.staged queried) (r'.staged queried)) (r.commitsOf queried)
      (r'.commitsOf queried) := by
  have hconfirms := h.confirms_eq queried
  unfold commitsOf
  by_cases hkeeps : r.confirms queried = true
  · rw [decision_of_confirms hkeeps, decision_of_confirms (hconfirms.trans hkeeps)]
    exact List.Forall₂.nil
  · have hkeeps' : ¬r'.confirms queried = true := hconfirms ▸ hkeeps
    have hnext := h.twins_nextOf queried
    have hgrows : r.directory.Grows (r.staged queried) := grows_staged hlisted.known
    have hgrows' : r'.directory.Grows (r'.staged queried) := grows_staged hlisted'.known
    have hleaving := (h.twins_leaving hlisted hlisted' queried).imp
      fun _ _ htwin => Effect.Alike.closed (htwin.grows hgrows hgrows')
    rw [decision_of_not_confirms hlisted.known hkeeps,
      decision_of_not_confirms hlisted'.known hkeeps']
    rw [← staged_of_not_confirms hlisted.known hkeeps,
      ← staged_of_not_confirms hlisted'.known hkeeps'] at hnext
    refine List.Forall₂.cons (Effect.Alike.published hnext) ?_
    rw [List.forall₂_map_left_iff, List.forall₂_map_right_iff]
    exact hleaving

end Alike

end Reconciler
end ClusterNode
