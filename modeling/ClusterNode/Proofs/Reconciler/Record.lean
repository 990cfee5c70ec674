import ClusterNode.Proofs.Reconciler.History

/-!
# The record of effects

What readers see at every moment and what becomes of the peers that leave the list, as an invariant
of the effects so far. Each effect keeps it; a list of peers that are owed their close carries it
from the publishing of a list to the last close.
-/

namespace ClusterNode
namespace Directory

/-!
## What readers see

A directory stays fit while its list stays and no peer of the list is closed.
-/

/-- A directory that is fit for readers. -/
structure Sound (d : Directory) : Prop where
  known : forall id, id ∈ d.published -> exists p, d.peer? id = some p
  ascending : d.snapshot.Pairwise fun p q => Address.KeyBefore p.address.key q.address.key
  distinct : (d.snapshot.map fun p => p.address.key).Nodup
  single : (d.snapshot.filter Peer.isSelf).length ≤ 1
  marked : forall p, p ∈ d.peers -> p.isSelf = p.address.isSelf
  unclosed : forall p, p ∈ d.snapshot -> p.isSelf = false -> p.state ≠ .closed
  here : forall p, p ∈ d.peers -> p.isSelf = true -> p.state = .connected ∧ p.channel? = none

def HasRemote (d : Directory) (id : PeerId) (address : Address) : Prop :=
  exists p, d.peer? id = some p ∧ p.isSelf = false ∧ p.address = address

def Marked (d : Directory) : Prop :=
  forall id p, d.peer? id = some p -> p.isSelf = p.address.isSelf

/-- The form of soundness that the steps keep. -/
structure Fit (d : Directory) : Prop where
  listed : exists addresses, Topology.Ranked addresses ∧ Topology.Lists d d.published addresses
  marked : d.Marked
  unclosed : forall id p, d.peer? id = some p -> p.link = .closed -> id ∉ d.published

theorem HasRemote.grows {d d' : Directory} {id : PeerId} {address : Address}
    (h : d.HasRemote id address) (hgrows : d.Grows d') : d'.HasRemote id address := by
  rcases h with ⟨p, hp, hself, haddress⟩
  rcases hgrows id p hp with ⟨q, hq, hpq⟩
  exact ⟨q, hq, hpq.isSelf_eq.trans hself, hpq.left.trans haddress⟩

theorem Marked.modify {d : Directory} (h : d.Marked) (id : PeerId) {f : Peer -> Peer}
    (hf : forall p : Peer, p.LeadsTo (f p)) : (d.modify id f).Marked := by
  intro other q hq
  rcases exists_of_peer?_modify hq with ⟨p, hp, rfl | rfl⟩
  · exact h other q hp
  · rw [(hf p).isSelf_eq, (hf p).left]
    exact h other p hp

theorem Marked.append {d : Directory} (h : d.Marked) {more : List Peer}
    (hmore : forall p, p ∈ more -> p.isSelf = p.address.isSelf) :
    Marked { d with peers := d.peers ++ more } := by
  intro id p hp
  rcases peer?_append_eq_some hp with hold | hnew
  · exact h id p hold
  · exact hmore p hnew

theorem mem_snapshot {d : Directory} {p : Peer} (h : p ∈ d.snapshot) :
    exists id, id ∈ d.published ∧ d.peer? id = some p :=
  List.mem_filterMap.mp h

theorem length_filter_le_one {α : Type} {test : α -> Bool} {xs : List α}
    (h : xs.Pairwise fun x y => ¬(test x = true ∧ test y = true)) :
    (xs.filter test).length ≤ 1 := by
  have hfilter := List.Pairwise.filter test h
  cases hxs : xs.filter test with
  | nil => exact Nat.zero_le 1
  | cons x rest =>
      cases rest with
      | nil => exact Nat.le_refl 1
      | cons y more =>
          exfalso
          have hx : x ∈ xs.filter test := by simp [hxs]
          have hy : y ∈ xs.filter test := by simp [hxs]
          rw [hxs] at hfilter
          have hnot := List.rel_of_pairwise_cons hfilter List.mem_cons_self
          exact hnot ⟨(List.mem_filter.mp hx).right, (List.mem_filter.mp hy).right⟩

theorem Fit.sound {d : Directory} (h : d.Fit) : d.Sound := by
  rcases h.listed with ⟨addresses, hranked, hlists⟩
  have hsnapshot := Topology.ranked_of_stands hlists.resolve hranked
  constructor
  · intro id hid
    exact exists_peer?_of_lt (hlists.known id hid)
  · exact hsnapshot.imp fun hpq => Address.keyBefore_of_precedes hpq.left
  · exact List.pairwise_map.mpr (hsnapshot.imp fun hpq => Topology.key_ne_of_precedes hpq.left)
  · exact length_filter_le_one (hsnapshot.imp fun hpq => hpq.right)
  · intro p hp
    rcases List.mem_iff_getElem?.mp hp with ⟨id, hid⟩
    exact h.marked id p hid
  · intro p hp _ hclosed
    rcases mem_snapshot hp with ⟨id, hid, hpeer⟩
    exact h.unclosed id p hpeer ((Peer.state_eq_closed_iff p).mp hclosed) hid
  · intro p _ hself
    have hlink := (Peer.isSelf_eq_true_iff p).mp hself
    simp [Peer.state, Peer.channel?, hlink]

theorem fit_empty : empty.Fit := by
  constructor
  · exact ⟨[], List.Pairwise.nil, List.Forall₂.nil⟩
  · intro id p h
    cases h
  · intro id p h
    cases h

theorem Fit.grows {d d' : Directory} (h : d.Fit) (hgrows : d.Grows d')
    (hpublished : d'.published = d.published) (hmarked : d'.Marked)
    (hunclosed : forall id p, d'.peer? id = some p -> p.link = .closed -> id ∉ d.published) :
    d'.Fit := by
  rcases h.listed with ⟨addresses, hranked, hlists⟩
  constructor
  · refine ⟨addresses, hranked, ?_⟩
    rw [hpublished]
    exact hlists.grows hgrows
  · exact hmarked
  · rw [hpublished]
    exact hunclosed

end Directory

/-!
## The effects so far

Whoever is on the list was there at first or has been published since.
-/

abbrev Directory.built (trace : List Effect) : Directory :=
  Directory.empty.replay trace

/-- The peer has been on a published list. -/
def WasPublished (trace : List Effect) (id : PeerId) : Prop :=
  exists next, Effect.published next ∈ trace ∧ id ∈ next

def Renewable (trace : List Effect) (id : PeerId) : Prop :=
  id ∈ (Directory.built trace).published ∨ ¬WasPublished trace id

/-- The effects so far, after which some peers are owed their close. -/
structure Record (trace : List Effect) (owed : List PeerId) : Prop where
  moments : forall d, d ∈ Directory.empty.moments trace -> d.Fit
  listed : forall id, id ∈ (Directory.built trace).published -> WasPublished trace id
  known : forall id, WasPublished trace id ->
    exists p, (Directory.built trace).peer? id = some p
  shut : forall id p, (Directory.built trace).peer? id = some p -> p.link = .closed ->
    WasPublished trace id
  retired : forall id p, WasPublished trace id ->
    id ∉ (Directory.built trace).published ->
    (Directory.built trace).peer? id = some p -> p.isSelf = false ->
    p.link = .closed ∨ id ∈ owed
  owing : forall id, id ∈ owed ->
    WasPublished trace id ∧ id ∉ (Directory.built trace).published
  renewed : forall before next after, trace = before ++ Effect.published next :: after ->
    forall id, id ∈ next -> Renewable before id
  asked : forall run attempt peer address, Effect.ask run attempt peer address ∈ trace ->
    (Directory.built trace).HasRemote peer address

theorem record_nil : Record [] [] := by
  constructor
  · intro d hd
    rw [List.mem_singleton.mp hd]
    exact Directory.fit_empty
  · intro id h
    cases h
  · intro id ⟨next, hmem, _⟩
    cases hmem
  · intro id p h
    cases h
  · intro id p h hnot hp
    cases hp
  · intro id h
    cases h
  · intro before next after h
    simp at h
  · intro run attempt peer address h
    cases h

theorem Record.fit {trace : List Effect} {owed : List PeerId} (h : Record trace owed) :
    (Directory.built trace).Fit :=
  h.moments _ (Directory.replay_mem_moments _ trace)

theorem mem_moments_concat {trace : List Effect} {e : Effect} {d : Directory}
    (h : d ∈ Directory.empty.moments (trace ++ [e])) :
    d ∈ Directory.empty.moments trace ∨ d = (Directory.built trace).record e := by
  rcases Directory.mem_moments_append h with hold | hnew
  · exact Or.inl hold
  · rcases List.mem_cons.mp hnew with rfl | hnew
    · exact Or.inl (Directory.replay_mem_moments _ trace)
    · exact Or.inr (List.mem_singleton.mp hnew)

theorem built_concat (trace : List Effect) (e : Effect) :
    Directory.built (trace ++ [e]) = (Directory.built trace).record e := by
  simp [Directory.built]

theorem WasPublished.append {trace : List Effect} {id : PeerId} (h : WasPublished trace id)
    (more : List Effect) : WasPublished (trace ++ more) id := by
  rcases h with ⟨next, hmem, hid⟩
  exact ⟨next, List.mem_append_left more hmem, hid⟩

theorem wasPublished_of_concat {trace : List Effect} {e : Effect} {id : PeerId}
    (h : WasPublished (trace ++ [e]) id) :
    WasPublished trace id ∨ exists next, e = .published next ∧ id ∈ next := by
  rcases h with ⟨next, hmem, hid⟩
  rcases List.mem_append.mp hmem with hold | hnew
  · exact Or.inl ⟨next, hold, hid⟩
  · exact Or.inr ⟨next, (List.mem_singleton.mp hnew).symm, hid⟩

theorem mem_or_wasPublished_of_replay {d : Directory} {effects : List Effect} {id : PeerId}
    (h : id ∈ (d.replay effects).published) : id ∈ d.published ∨ WasPublished effects id := by
  induction effects generalizing d with
  | nil => exact Or.inl h
  | cons e rest ih =>
      rw [Directory.replay_cons] at h
      rcases ih h with hmem | ⟨next, hnext, hid⟩
      · by_cases hpublished : exists next, e = .published next
        · rcases hpublished with ⟨next, rfl⟩
          exact Or.inr ⟨next, List.mem_cons_self, hmem⟩
        · rw [Directory.published_record (not_exists.mp hpublished)] at hmem
          exact Or.inl hmem
      · exact Or.inr ⟨next, List.mem_cons_of_mem e hnext, hid⟩

theorem eq_of_concat_eq {trace before after : List Effect} {e e' : Effect}
    (h : trace ++ [e] = before ++ e' :: after) :
    (trace = before ∧ e = e') ∨ exists rest, trace = before ++ e' :: rest := by
  rcases List.eq_nil_or_concat after with rfl | ⟨rest, last, rfl⟩
  · rcases List.append_inj' h rfl with ⟨htrace, he⟩
    exact Or.inl ⟨htrace, List.head_eq_of_cons_eq he⟩
  · right
    have h' : trace ++ [e] = (before ++ e' :: rest) ++ [last] := by simpa using h
    exact ⟨rest, (List.append_inj' h' rfl).left⟩

/-!
## One effect

Most effects close nobody, and some are not even to be seen in the directory. When a list is
published, the remotes that it leaves out are owed their close, and a close pays for one of them.
-/

theorem Record.extend {trace : List Effect} {owed owed' : List PeerId} {e : Effect}
    (h : Record trace owed) (hquiet : forall next, e ≠ .published next)
    (hmarked : ((Directory.built trace).record e).Marked)
    (hclosed : forall id p, ((Directory.built trace).record e).peer? id = some p ->
      p.link = .closed ->
      id ∈ owed ∨ exists q, (Directory.built trace).peer? id = some q ∧ q.link = .closed)
    (howed : forall id, id ∈ owed' -> id ∈ owed)
    (hpaid : forall id p, id ∈ owed -> ((Directory.built trace).record e).peer? id = some p ->
      p.isSelf = false -> p.link = .closed ∨ id ∈ owed')
    (hasked : forall run attempt peer address, e = .ask run attempt peer address ->
      (Directory.built trace).HasRemote peer address) :
    Record (trace ++ [e]) owed' := by
  have hgrows := Directory.grows_record (Directory.built trace) e
  have hpublished := Directory.published_record hquiet (Directory.built trace)
  have hwas : forall id, WasPublished (trace ++ [e]) id -> WasPublished trace id := by
    intro id hid
    rcases wasPublished_of_concat hid with hold | ⟨next, he, _⟩
    · exact hold
    · exact absurd he (hquiet next)
  have hshut : forall id p, ((Directory.built trace).record e).peer? id = some p ->
      p.link = .closed -> WasPublished trace id ∧ id ∉ (Directory.built trace).published := by
    intro id p hp hlink
    rcases hclosed id p hp hlink with hid | ⟨q, hq, hqlink⟩
    · exact h.owing id hid
    · exact ⟨h.shut id q hq hqlink, h.fit.unclosed id q hq hqlink⟩
  constructor
  · intro d hd
    rcases mem_moments_concat hd with hold | rfl
    · exact h.moments d hold
    · exact h.fit.grows hgrows hpublished hmarked fun id p hp hlink => (hshut id p hp hlink).right
  · rw [built_concat, hpublished]
    intro id hid
    exact (h.listed id hid).append [e]
  · rw [built_concat]
    intro id hid
    rcases h.known id (hwas id hid) with ⟨p, hp⟩
    rcases hgrows id p hp with ⟨q, hq, _⟩
    exact ⟨q, hq⟩
  · rw [built_concat]
    intro id p hp hlink
    exact (hshut id p hp hlink).left.append [e]
  · rw [built_concat, hpublished]
    intro id q hid hnot hq hself
    rcases h.known id (hwas id hid) with ⟨p, hp⟩
    rcases hgrows id p hp with ⟨q', hq', hpq⟩
    rw [hq] at hq'
    cases hq'
    rw [hpq.isSelf_eq] at hself
    rcases h.retired id p (hwas id hid) hnot hp hself with hlink | howe
    · exact Or.inl (hpq.link_eq_closed hlink)
    · exact hpaid id q howe hq (hpq.isSelf_eq.trans hself)
  · rw [built_concat, hpublished]
    intro id hid
    rcases h.owing id (howed id hid) with ⟨hpub, hnot⟩
    exact ⟨hpub.append [e], hnot⟩
  · intro before next after heq
    rcases eq_of_concat_eq heq with ⟨_, he⟩ | ⟨rest, htrace⟩
    · exact absurd he (hquiet next)
    · exact h.renewed before next rest htrace
  · rw [built_concat]
    intro run attempt peer address hmem
    rcases List.mem_append.mp hmem with hold | hnew
    · exact (h.asked run attempt peer address hold).grows hgrows
    · exact (hasked run attempt peer address (List.mem_singleton.mp hnew).symm).grows hgrows

theorem Record.extend_same {trace : List Effect} {owed : List PeerId} {e : Effect}
    (h : Record trace owed) (hquiet : forall next, e ≠ .published next)
    (hmarked : ((Directory.built trace).record e).Marked)
    (hclosed : forall id p, ((Directory.built trace).record e).peer? id = some p ->
      p.link = .closed ->
      exists q, (Directory.built trace).peer? id = some q ∧ q.link = .closed)
    (hasked : forall run attempt peer address, e = .ask run attempt peer address ->
      (Directory.built trace).HasRemote peer address) :
    Record (trace ++ [e]) owed := by
  apply h.extend hquiet hmarked
  · intro id p hp hlink
    exact Or.inr (hclosed id p hp hlink)
  · intro id hid
    exact hid
  · intro id p hid _ _
    exact Or.inr hid
  · exact hasked

theorem Record.unseen {trace : List Effect} {owed : List PeerId} {e : Effect}
    (h : Record trace owed) (hquiet : forall next, e ≠ .published next)
    (hsame : forall d : Directory, d.record e = d)
    (hasked : forall run attempt peer address, e = .ask run attempt peer address ->
      (Directory.built trace).HasRemote peer address) :
    Record (trace ++ [e]) owed := by
  apply h.extend_same hquiet
  · rw [hsame]
    exact h.fit.marked
  · rw [hsame]
    intro id p hp hlink
    exact ⟨p, hp, hlink⟩
  · exact hasked

theorem Record.notices {trace effects : List Effect} {owed : List PeerId}
    (h : Record trace owed) (hnotices : forall e, e ∈ effects -> e.IsNotice) :
    Record (trace ++ effects) owed := by
  induction effects generalizing trace with
  | nil => rwa [List.append_nil]
  | cons e rest ih =>
      have hfirst : Record (trace ++ [e]) owed := by
        have hnotice := hnotices e List.mem_cons_self
        apply h.unseen
        · intro next he
          rw [he] at hnotice
          exact hnotice
        · exact Directory.record_of_isNotice hnotice
        · intro run attempt peer address he
          rw [he] at hnotice
          cases hnotice
      have hrest := ih hfirst fun e' he' => hnotices e' (List.mem_cons_of_mem e he')
      rwa [List.append_assoc] at hrest

theorem Record.asks {trace effects : List Effect} {owed : List PeerId}
    (h : Record trace owed)
    (hasks : forall e, e ∈ effects -> exists run attempt peer address,
      (Directory.built trace).HasRemote peer address ∧ e = .ask run attempt peer address) :
    Record (trace ++ effects) owed := by
  induction effects generalizing trace with
  | nil => rwa [List.append_nil]
  | cons e rest ih =>
      rcases hasks e List.mem_cons_self with ⟨run, attempt, peer, address, hremote, rfl⟩
      have hfirst : Record (trace ++ [.ask run attempt peer address]) owed := by
        apply h.unseen
        · intro next he
          cases he
        · intro d
          rfl
        · intro run' attempt' peer' address' he
          cases he
          exact hremote
      have hrest := ih hfirst (by
        rw [built_concat]
        exact fun e' he' => hasks e' (List.mem_cons_of_mem _ he'))
      rwa [List.append_assoc] at hrest

theorem Record.created {trace : List Effect} {owed : List PeerId} (h : Record trace owed)
    (addresses : List Address) :
    Record (trace ++ [.created (addresses.map Peer.ofAddress)]) owed := by
  apply h.extend_same
  · intro next he
    cases he
  · apply h.fit.marked.append
    intro p hp
    rcases List.mem_map.mp hp with ⟨a, _, rfl⟩
    exact Peer.isSelf_ofAddress_eq a
  · intro id p hp hlink
    rcases Directory.peer?_append_eq_some hp with hold | hnew
    · exact ⟨p, hold, hlink⟩
    · rcases List.mem_map.mp hnew with ⟨a, _, rfl⟩
      exact absurd hlink (Peer.link_ofAddress_ne_closed a)
  · intro run attempt peer address he
    cases he

theorem Record.answered {trace : List Effect} {owed : List PeerId} (h : Record trace owed)
    (peer : PeerId) (answer : Except ClusterError Channel) :
    Record (trace ++ [.answered peer answer]) owed := by
  apply h.extend_same
  · intro next he
    cases he
  · exact h.fit.marked.modify peer fun p => Peer.leadsTo_finishConnect p answer
  · intro id q hq hlink
    rcases Directory.exists_of_peer?_modify hq with ⟨p, hp, rfl | rfl⟩
    · exact ⟨q, hp, hlink⟩
    · refine ⟨p, hp, ?_⟩
      by_contra hne
      exact Peer.link_finishConnect_ne_closed hne answer hlink
  · intro run attempt peer' address he
    cases he

theorem Record.closed {trace : List Effect} {id : PeerId} {owed : List PeerId}
    (h : Record trace (id :: owed)) : Record (trace ++ [.closed id]) owed := by
  apply h.extend
  · intro next he
    cases he
  · exact h.fit.marked.modify id Peer.leadsTo_close
  · intro other q hq hlink
    by_cases hother : id = other
    · exact Or.inl (hother ▸ List.mem_cons_self)
    · rw [Directory.record, Directory.close, Directory.peer?_modify_ne _ _ hother] at hq
      exact Or.inr ⟨q, hq, hlink⟩
  · intro other hmem
    exact List.mem_cons_of_mem id hmem
  · intro other q hmem hq hself
    rcases List.mem_cons.mp hmem with rfl | hmem
    · left
      rw [Directory.record, Directory.close, Directory.peer?_modify_same] at hq
      rcases Option.map_eq_some_iff.mp hq with ⟨p, _, rfl⟩
      rw [Peer.isSelf_close] at hself
      exact Peer.link_close_of_isSelf_false hself
    · exact Or.inr hmem
  · intro run attempt peer address he
    cases he

theorem Record.closes {trace : List Effect} {owed : List PeerId} (h : Record trace owed) :
    Record (trace ++ owed.map Effect.closed) [] := by
  induction owed generalizing trace with
  | nil => rwa [List.map_nil, List.append_nil]
  | cons id rest ih =>
      have hrest := ih h.closed
      rwa [List.append_assoc] at hrest

theorem Record.published {trace : List Effect} (h : Record trace []) {next : List PeerId}
    {addresses : List Address} (hranked : Topology.Ranked addresses)
    (hlists : Topology.Lists (Directory.built trace) next addresses)
    (hnext : forall id, id ∈ next -> Renewable trace id) :
    Record (trace ++ [.published next])
      (Reconciler.leaving (Directory.built trace) (Directory.built trace).published next) := by
  have hfresh : forall id p, (Directory.built trace).peer? id = some p ->
      p.link = .closed -> id ∉ next := by
    intro id p hp hlink hid
    rcases hnext id hid with hcurrent | hnever
    · exact h.fit.unclosed id p hp hlink hcurrent
    · exact hnever (h.shut id p hp hlink)
  have hwas : forall id, WasPublished (trace ++ [.published next]) id -> id ∉ next ->
      WasPublished trace id := by
    intro id hid hnot
    rcases wasPublished_of_concat hid with hold | ⟨next', he, hnew⟩
    · exact hold
    · cases he
      exact absurd hnew hnot
  constructor
  · intro d hd
    rcases mem_moments_concat hd with hold | rfl
    · exact h.moments d hold
    · exact ⟨⟨addresses, hranked, hlists⟩, h.fit.marked, hfresh⟩
  · rw [built_concat]
    intro id hid
    exact ⟨next, List.mem_append_right trace List.mem_cons_self, hid⟩
  · rw [built_concat]
    intro id hid
    by_cases hmem : id ∈ next
    · exact Directory.exists_peer?_of_lt (hlists.known id hmem)
    · exact h.known id (hwas id hid hmem)
  · rw [built_concat]
    intro id p hp hlink
    exact (h.shut id p hp hlink).append _
  · rw [built_concat]
    intro id p hid hnot hp hself
    by_cases hcurrent : id ∈ (Directory.built trace).published
    · right
      refine List.mem_filter.mpr ⟨List.mem_filter.mpr ⟨hcurrent, ?_⟩, ?_⟩
      · have hnot' : id ∉ next := hnot
        simpa using hnot'
      · exact (Directory.isRemote_eq_true_iff _ id).mpr ⟨p, hp, hself⟩
    · rcases h.retired id p (hwas id hid hnot) hcurrent hp hself with hlink | howe
      · exact Or.inl hlink
      · cases howe
  · rw [built_concat]
    intro id hid
    rcases List.mem_filter.mp hid with ⟨hsuper, _⟩
    rcases List.mem_filter.mp hsuper with ⟨hcurrent, hnot⟩
    refine ⟨(h.listed id hcurrent).append _, ?_⟩
    show id ∉ next
    simpa using hnot
  · intro before next' after heq
    rcases eq_of_concat_eq heq with ⟨htrace, he⟩ | ⟨rest, htrace⟩
    · cases he
      rw [← htrace]
      exact hnext
    · exact h.renewed before next' rest htrace
  · rw [built_concat]
    intro run attempt peer address hmem
    rcases List.mem_append.mp hmem with hold | hnew
    · exact h.asked run attempt peer address hold
    · cases List.mem_singleton.mp hnew

end ClusterNode
