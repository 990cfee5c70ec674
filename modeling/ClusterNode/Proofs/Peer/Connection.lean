import ClusterNode.Proofs.Reconciler.Directory

/-!
# The connection of a peer

Any number of connects and closes may be under way for one peer. A connect looks at the link, asks a
connector if the link is a new one, and looks at the link again when the connector has answered; in
between, anything may happen. The link of a remote goes from created over connected to closed and
never back, it keeps the first channel that it gets, and after a close no connect succeeds.
-/

namespace ClusterNode

inductive ConnectionState.MovesTo : ConnectionState -> ConnectionState -> Prop where
  | connects : MovesTo .created .connected
  | ends : MovesTo .connected .closed
  | gives_up : MovesTo .created .closed

/-- Where a connect stands. It is cleared when it has found a new link and has not asked yet. -/
inductive ConnectStage where
  | cleared
  | asking
  | concluded (result : Except ClusterError Unit)
  | dropped

def ConnectStage.isUnderWay : ConnectStage -> Bool
  | cleared => true
  | asking => true
  | _ => false

/-- A peer and the connects that have begun, in their order. -/
structure Line where
  peer : Peer
  connects : List ConnectStage

namespace Line

inductive Act where
  | checks
  | asks (n : Nat)
  | completes (n : Nat) (answer : Except ClusterError Channel)
  | drops (n : Nat)
  | closes

/-- What is to be seen of a connect: the state that it has found, that it asks the connector, the
answer of the connector, and its result. -/
inductive Fact where
  | found (n : Nat) (state : ConnectionState)
  | asked (n : Nat)
  | answered (n : Nat) (answer : Except ClusterError Channel)
  | returned (n : Nat) (result : Except ClusterError Unit)

def Fact.delivered? : Fact -> Option Channel
  | answered _ (.ok channel) => some channel
  | _ => none

def ofPeer (p : Peer) : Line := { peer := p, connects := [] }

def check (l : Line) : Line × List Fact :=
  match l.peer.beginConnect with
  | .ended result =>
      ({ l with connects := l.connects ++ [.concluded result] },
        [.found l.connects.length l.peer.state, .returned l.connects.length result])
  | .ask =>
      ({ l with connects := l.connects ++ [.cleared] },
        [.found l.connects.length l.peer.state])

def ask (l : Line) (n : Nat) : Line × List Fact :=
  match l.connects[n]? with
  | some .cleared => ({ l with connects := l.connects.set n .asking }, [.asked n])
  | _ => (l, [])

def complete (l : Line) (n : Nat) (answer : Except ClusterError Channel) : Line × List Fact :=
  match l.connects[n]? with
  | some .asking =>
      let (peer, result) := l.peer.finishConnect answer
      ({ peer, connects := l.connects.set n (.concluded result) },
        [.answered n answer, .returned n result])
  | _ => (l, [])

def drop (l : Line) (n : Nat) : Line × List Fact :=
  match l.connects[n]? with
  | some stage =>
      if stage.isUnderWay then ({ l with connects := l.connects.set n .dropped }, []) else (l, [])
  | none => (l, [])

def step (l : Line) : Act -> Line × List Fact
  | .checks => l.check
  | .asks n => l.ask n
  | .completes n answer => l.complete n answer
  | .drops n => l.drop n
  | .closes => ({ l with peer := l.peer.close }, [])

def after (l : Line) : List Act -> Line
  | [] => l
  | act :: rest => after (l.step act).1 rest

def trace (l : Line) : List Act -> List Fact
  | [] => []
  | act :: rest => (l.step act).2 ++ trace (l.step act).1 rest

def deliveries (facts : List Fact) : List Channel := facts.filterMap Fact.delivered?

variable {l l' : Line} {facts : List Fact}

theorem after_append (l : Line) (a b : List Act) : l.after (a ++ b) = (l.after a).after b := by
  induction a generalizing l with
  | nil => rfl
  | cons act rest ih => exact ih (l.step act).1

/-!
## What one act does
-/

inductive Change (l : Line) : Line -> List Fact -> Prop where
  | rests : Change l l []
  | ends (result : Except ClusterError Unit) : l.peer.beginConnect = .ended result ->
      Change l { l with connects := l.connects ++ [.concluded result] }
        [.found l.connects.length l.peer.state, .returned l.connects.length result]
  | clears : l.peer.beginConnect = .ask ->
      Change l { l with connects := l.connects ++ [.cleared] }
        [.found l.connects.length l.peer.state]
  | asks (n : Nat) : l.connects[n]? = some .cleared ->
      Change l { l with connects := l.connects.set n .asking } [.asked n]
  | completes (n : Nat) (answer : Except ClusterError Channel) :
      l.connects[n]? = some .asking ->
      Change l
        { peer := (l.peer.finishConnect answer).1
          connects := l.connects.set n (.concluded (l.peer.finishConnect answer).2) }
        [.answered n answer, .returned n (l.peer.finishConnect answer).2]
  | drops (n : Nat) {stage : ConnectStage} :
      l.connects[n]? = some stage -> stage.isUnderWay = true ->
      Change l { l with connects := l.connects.set n .dropped } []
  | closes : Change l { l with peer := l.peer.close } []

theorem change_step (l : Line) (act : Act) : Change l (l.step act).1 (l.step act).2 := by
  cases act with
  | checks =>
      show Change l l.check.1 l.check.2
      unfold check
      split
      · rename_i result hbegin
        exact Change.ends result hbegin
      · rename_i hbegin
        exact Change.clears hbegin
  | asks n =>
      show Change l (l.ask n).1 (l.ask n).2
      unfold ask
      split
      · rename_i hcleared
        exact Change.asks n hcleared
      · exact Change.rests
  | completes n answer =>
      show Change l (l.complete n answer).1 (l.complete n answer).2
      unfold complete
      split
      · rename_i hasking
        exact Change.completes n answer hasking
      · exact Change.rests
  | drops n =>
      show Change l (l.drop n).1 (l.drop n).2
      unfold drop
      split
      · rename_i stage hstage
        split
        · rename_i hunderWay
          exact Change.drops n hstage hunderWay
        · exact Change.rests
      · exact Change.rests
  | closes => exact Change.closes

end Line

/-!
## What one act of a connect does to the peer

A connect that ends at once has found a peer that is connected or closed. A connect with a channel
succeeds unless the peer is closed, and a link that is still new takes the channel. A connect that
has asked hears the answer, unless it is dropped before.
-/

namespace Peer

variable {p : Peer}

theorem state_of_leadsTo {q : Peer} (h : p.LeadsTo q) :
    q.state = p.state ∨ p.state.MovesTo q.state := by
  rcases p with ⟨address, link⟩
  rcases q with ⟨address', link'⟩
  cases h.right with
  | same _ => exact Or.inl rfl
  | connect channel => exact Or.inr ConnectionState.MovesTo.connects
  | close hne =>
      cases link with
      | here => exact absurd rfl hne
      | created => exact Or.inr ConnectionState.MovesTo.gives_up
      | connected _ => exact Or.inr ConnectionState.MovesTo.ends
      | closed => exact Or.inl rfl

theorem state_of_beginConnect_ended {result : Except ClusterError Unit}
    (h : p.beginConnect = .ended result) :
    (result = .ok () ∧ p.state = .connected) ∨
      (result = .error (.connectionClosed p.address.toText) ∧ p.state = .closed) := by
  rcases p with ⟨address, link⟩
  cases link with
  | here =>
      cases h
      exact Or.inl ⟨rfl, rfl⟩
  | created => cases h
  | connected channel =>
      cases h
      exact Or.inl ⟨rfl, rfl⟩
  | closed =>
      cases h
      exact Or.inr ⟨rfl, rfl⟩

theorem state_of_beginConnect_ask (h : p.beginConnect = .ask) : p.state = .created := by
  rcases p with ⟨address, link⟩
  cases link with
  | created => rfl
  | here => cases h
  | connected _ => cases h
  | closed => cases h

theorem finishConnect_of_created (h : p.state = .created) (channel : Channel) :
    p.finishConnect (.ok channel) = ({ p with link := .connected channel }, .ok ()) := by
  unfold finishConnect
  rw [(state_eq_created_iff p).mp h]

theorem state_of_finishConnect_ok (p : Peer) (channel : Channel) :
    ((p.finishConnect (.ok channel)).2 = .ok () ∧
        (p.finishConnect (.ok channel)).1.state = .connected) ∨
      ((p.finishConnect (.ok channel)).2 = .error (.connectionClosed p.address.toText) ∧
        (p.finishConnect (.ok channel)).1.state = .closed) := by
  rcases p with ⟨address, link⟩
  cases link with
  | closed => exact Or.inr ⟨rfl, rfl⟩
  | here => exact Or.inl ⟨rfl, rfl⟩
  | created => exact Or.inl ⟨rfl, rfl⟩
  | connected _ => exact Or.inl ⟨rfl, rfl⟩

end Peer

namespace Line

variable {l l' : Line} {facts : List Fact} {acts : List Act} {a : Address}

/-- What holds of every act: how the state moves, what a connect has found, and what its result says
about the state. An error is the one that the connector has answered with, whichever it is, or says
that the connection is closed. A channel that is delivered connects a link that is still new. -/
structure Obeys (l l' : Line) (facts : List Fact) : Prop where
  moves : l'.peer.state = l.peer.state ∨ l.peer.state.MovesTo l'.peer.state
  found : forall n state, Fact.found n state ∈ facts -> l.peer.state = state
  ok : forall n, Fact.returned n (.ok ()) ∈ facts -> l'.peer.state = .connected
  closed : forall n e, Fact.returned n (.error e) ∈ facts ->
    Fact.answered n (.error e) ∈ facts ∨
      e = .connectionClosed l.peer.address.toText ∧ l'.peer.state = .closed
  failed : forall n e, Fact.answered n (.error e) ∈ facts ->
    Fact.returned n (.error e) ∈ facts ∧ l'.peer = l.peer
  delivered : forall n channel, Fact.answered n (.ok channel) ∈ facts ->
    l.peer.state = .created ->
      Fact.returned n (.ok ()) ∈ facts ∧ l'.peer.channel? = some channel

theorem Obeys.of_nil (h : l.peer.LeadsTo l'.peer) : Obeys l l' [] := by
  constructor
  · exact Peer.state_of_leadsTo h
  · intro n state hfact
    cases hfact
  · intro n hfact
    cases hfact
  · intro n e hfact
    cases hfact
  · intro n e hfact
    cases hfact
  · intro n channel hfact
    cases hfact

theorem Change.leadsTo (h : Change l l' facts) : l.peer.LeadsTo l'.peer := by
  cases h with
  | completes n answer _ => exact Peer.leadsTo_finishConnect l.peer answer
  | closes => exact Peer.leadsTo_close l.peer
  | rests => exact Peer.LeadsTo.refl _
  | ends result _ => exact Peer.LeadsTo.refl _
  | clears _ => exact Peer.LeadsTo.refl _
  | asks n _ => exact Peer.LeadsTo.refl _
  | drops n _ _ => exact Peer.LeadsTo.refl _

theorem delivered_of_finishConnect (n : Nat) (channel : Channel) :
    forall m other, Fact.answered m (.ok other) ∈
        [.answered n (.ok channel), .returned n (l.peer.finishConnect (.ok channel)).2] ->
      l.peer.state = .created ->
        Fact.returned m (.ok ()) ∈
          [.answered n (.ok channel), .returned n (l.peer.finishConnect (.ok channel)).2] ∧
        (l.peer.finishConnect (.ok channel)).1.channel? = some other := by
  intro m other hfact hcreated
  rcases List.mem_pair.mp hfact with hanswered | hreturned
  · cases hanswered
    rw [Peer.finishConnect_of_created hcreated]
    exact ⟨List.mem_cons_of_mem _ List.mem_cons_self, rfl⟩
  · cases hreturned

theorem Change.obeys (h : Change l l' facts) : Obeys l l' facts := by
  have hmoves := Peer.state_of_leadsTo h.leadsTo
  cases h with
  | rests => exact Obeys.of_nil (Peer.LeadsTo.refl _)
  | drops n _ _ => exact Obeys.of_nil (Peer.LeadsTo.refl _)
  | closes => exact Obeys.of_nil (Peer.leadsTo_close l.peer)
  | asks n _ => exact ⟨hmoves, by simp, by simp, by simp, by simp, by simp⟩
  | clears _ =>
      refine ⟨hmoves, ?_, by simp, by simp, by simp, by simp⟩
      intro n state hfact
      cases List.mem_singleton.mp hfact
      rfl
  | ends result hbegin =>
      have hfound : forall n state, Fact.found n state ∈
          [.found l.connects.length l.peer.state, .returned l.connects.length result] ->
            l.peer.state = state := by
        intro n state hfact
        rcases List.mem_pair.mp hfact with hfound | hreturned
        · cases hfound
          rfl
        · cases hreturned
      rcases Peer.state_of_beginConnect_ended hbegin with ⟨rfl, hstate⟩ | ⟨rfl, hstate⟩
      · exact ⟨hmoves, hfound, fun _ _ => hstate, by simp, by simp, by simp⟩
      · refine ⟨hmoves, hfound, by simp, ?_, by simp, by simp⟩
        intro n e hfact
        rcases List.mem_pair.mp hfact with hfound | hreturned
        · cases hfound
        · cases hreturned
          exact Or.inr ⟨rfl, hstate⟩
  | completes n answer _ =>
      cases answer with
      | error e =>
          have hsame : l.peer.finishConnect (.error e) = (l.peer, .error e) := rfl
          rw [hsame]
          refine ⟨hmoves, by simp, by simp, ?_, ?_, by simp⟩
          · intro m e' hfact
            rcases List.mem_pair.mp hfact with hanswered | hreturned
            · cases hanswered
            · cases hreturned
              exact Or.inl List.mem_cons_self
          · intro m e' hfact
            rcases List.mem_pair.mp hfact with hanswered | hreturned
            · cases hanswered
              exact ⟨List.mem_cons_of_mem _ List.mem_cons_self, rfl⟩
            · cases hreturned
      | ok channel =>
          have hdelivered := delivered_of_finishConnect (l := l) n channel
          rcases Peer.state_of_finishConnect_ok l.peer channel with ⟨hok, hstate⟩ | ⟨herror, hstate⟩
          · rw [hok] at hdelivered ⊢
            exact ⟨hmoves, by simp, fun _ _ => hstate, by simp, by simp, hdelivered⟩
          · rw [herror] at hdelivered ⊢
            refine ⟨hmoves, by simp, by simp, ?_, by simp, hdelivered⟩
            intro m e hfact
            rcases List.mem_pair.mp hfact with hanswered | hreturned
            · cases hanswered
            · cases hreturned
              exact Or.inr ⟨rfl, hstate⟩

theorem answered_of_asking {n : Nat} (h : l.connects[n]? = some .asking)
    (answer : Except ClusterError Channel) :
    Fact.answered n answer ∈ (l.step (.completes n answer)).2 := by
  show Fact.answered n answer ∈ (l.complete n answer).2
  unfold complete
  rw [h]
  exact List.mem_cons_self

/-!
## Remotes

Facts that leave the peer as it is keep what is known of its line. The first channel that is
delivered stays, none is taken after a close, and a channel is there exactly while the state is the
connected one.
-/

theorem deliveries_append (a b : List Fact) :
    deliveries (a ++ b) = deliveries a ++ deliveries b := List.filterMap_append

theorem head?_append_of_eq_some {channel : Channel} {xs : List Channel}
    (h : xs.head? = some channel) (ys : List Channel) : (xs ++ ys).head? = some channel := by
  rw [List.head?_append, h]
  rfl

/-- The line of a remote and what has been seen of it: who asks has found a new link, and the
channel is the first one that has been delivered. -/
structure Kept (l : Line) (facts : List Fact) : Prop where
  remote : l.peer.link ≠ .here
  cleared : forall n stage, l.connects[n]? = some stage -> stage.isUnderWay = true ->
    Fact.found n .created ∈ facts
  asked : forall n, Fact.asked n ∈ facts -> Fact.found n .created ∈ facts
  created : l.peer.link = .created -> deliveries facts = []
  connected : forall channel, l.peer.link = .connected channel ->
    (deliveries facts).head? = some channel

theorem kept_ofRemote (a : Address) : Kept (ofPeer (.ofRemote a)) [] := by
  constructor
  · intro hlink
    cases hlink
  · intro n stage hstage
    cases hstage
  · intro n hasked
    cases hasked
  · intro _
    rfl
  · intro channel hlink
    cases hlink

theorem link_close (h : l.peer.link ≠ .here) : l.peer.close.link = .closed := by
  apply Peer.link_close_of_isSelf_false
  rw [← Bool.not_eq_true, Peer.isSelf_eq_true_iff]
  exact h

theorem Kept.idle {trace : List Fact} (h : Kept l trace) (hpeer : l'.peer = l.peer)
    (hcleared : forall n stage, l'.connects[n]? = some stage -> stage.isUnderWay = true ->
      Fact.found n .created ∈ trace ++ facts)
    (hasked : forall n, Fact.asked n ∈ facts -> Fact.found n .created ∈ trace)
    (hdeliveries : l.peer.link = .created -> deliveries facts = []) :
    Kept l' (trace ++ facts) := by
  constructor
  · rw [hpeer]
    exact h.remote
  · exact hcleared
  · intro n hn
    rcases List.mem_append.mp hn with hold | hnew
    · exact List.mem_append_left _ (h.asked n hold)
    · exact List.mem_append_left _ (hasked n hnew)
  · intro hlink
    rw [hpeer] at hlink
    rw [deliveries_append, h.created hlink, hdeliveries hlink]
    rfl
  · intro channel hlink
    rw [hpeer] at hlink
    rw [deliveries_append]
    exact head?_append_of_eq_some (h.connected channel hlink) _

theorem getElem?_set_cases {connects : List ConnectStage} {n m : Nat} {new stage : ConnectStage}
    (h : (connects.set n new)[m]? = some stage) :
    connects[m]? = some stage ∨ n = m ∧ stage = new := by
  rw [List.getElem?_set] at h
  split at h
  · rename_i hnm
    split at h
    · cases h
      exact Or.inr ⟨hnm, rfl⟩
    · cases h
  · exact Or.inl h

theorem getElem?_concat_cases {connects : List ConnectStage} {m : Nat} {new stage : ConnectStage}
    (h : (connects ++ [new])[m]? = some stage) :
    connects[m]? = some stage ∨ connects.length = m ∧ stage = new := by
  rw [List.getElem?_append] at h
  split at h
  · exact Or.inl h
  · rename_i hge
    rcases List.getElem?_eq_some_iff.mp h with ⟨hlt, hstage⟩
    have hm : m - connects.length = 0 := Nat.lt_one_iff.mp hlt
    refine Or.inr ⟨by omega, ?_⟩
    simpa [hm] using hstage.symm

theorem Kept.cleared_of_cases {trace : List Fact} (h : Kept l trace)
    {connects : List ConnectStage} {n : Nat} {new : ConnectStage}
    (hcases : forall m stage, connects[m]? = some stage ->
      l.connects[m]? = some stage ∨ n = m ∧ stage = new)
    (hnew : new.isUnderWay = true -> Fact.found n .created ∈ trace ++ facts) :
    forall m stage, connects[m]? = some stage -> stage.isUnderWay = true ->
      Fact.found m .created ∈ trace ++ facts := by
  intro m stage hstage hunderWay
  rcases hcases m stage hstage with hold | ⟨rfl, rfl⟩
  · exact List.mem_append_left _ (h.cleared m stage hold hunderWay)
  · exact hnew hunderWay

theorem Kept.complete {trace : List Fact} (h : Kept l trace) {n : Nat}
    (answer : Except ClusterError Channel) :
    Kept
      { peer := (l.peer.finishConnect answer).1
        connects := l.connects.set n (.concluded (l.peer.finishConnect answer).2) }
      (trace ++ [.answered n answer, .returned n (l.peer.finishConnect answer).2]) := by
  have hcleared : forall m stage,
      (l.connects.set n (.concluded (l.peer.finishConnect answer).2))[m]? = some stage ->
        stage.isUnderWay = true -> Fact.found m .created ∈
          trace ++ [.answered n answer, .returned n (l.peer.finishConnect answer).2] :=
    h.cleared_of_cases (fun m stage => getElem?_set_cases) (by simp [ConnectStage.isUnderWay])
  cases answer with
  | error e => exact h.idle rfl hcleared (by simp) fun _ => rfl
  | ok channel =>
      cases hlink : l.peer.link with
      | here => exact absurd hlink h.remote
      | connected old =>
          have hpeer : (l.peer.finishConnect (.ok channel)).1 = l.peer := by
            unfold Peer.finishConnect
            rw [hlink]
          apply h.idle hpeer hcleared (by simp)
          rw [hlink]
          simp
      | closed =>
          have hpeer : (l.peer.finishConnect (.ok channel)).1 = l.peer := by
            unfold Peer.finishConnect
            rw [hlink]
          apply h.idle hpeer hcleared (by simp)
          rw [hlink]
          simp
      | created =>
          have hstate := (Peer.state_eq_created_iff l.peer).mpr hlink
          rw [Peer.finishConnect_of_created hstate] at hcleared ⊢
          refine ⟨by simp, hcleared, ?_, by simp, ?_⟩
          · intro m hasked
            rcases List.mem_append.mp hasked with hold | hnew
            · exact List.mem_append_left _ (h.asked m hold)
            · rcases List.mem_pair.mp hnew with hanswered | hreturned
              · cases hanswered
              · cases hreturned
          · intro channel' hlink'
            cases hlink'
            rw [deliveries_append, h.created hlink]
            rfl

theorem Change.kept {trace : List Fact} (h : Change l l' facts) (hkept : Kept l trace) :
    Kept l' (trace ++ facts) := by
  cases h with
  | rests =>
      rw [List.append_nil]
      exact hkept
  | ends result _ =>
      refine hkept.idle rfl ?_ (by simp) fun _ => rfl
      exact hkept.cleared_of_cases (fun m stage => getElem?_concat_cases)
        (by simp [ConnectStage.isUnderWay])
  | clears hbegin =>
      refine hkept.idle rfl ?_ (by simp) fun _ => rfl
      refine hkept.cleared_of_cases (fun m stage => getElem?_concat_cases) ?_
      intro _
      rw [Peer.state_of_beginConnect_ask hbegin]
      exact List.mem_append_right _ (List.mem_singleton_self _)
  | asks n hstage =>
      have hfound := hkept.cleared n .cleared hstage rfl
      refine hkept.idle rfl ?_ ?_ fun _ => rfl
      · exact hkept.cleared_of_cases (fun m stage => getElem?_set_cases)
          fun _ => List.mem_append_left _ hfound
      · intro m hasked
        cases List.mem_singleton.mp hasked
        exact hfound
  | completes n answer _ => exact hkept.complete answer
  | drops n _ _ =>
      refine hkept.idle rfl ?_ (by simp) fun _ => rfl
      exact hkept.cleared_of_cases (fun m stage => getElem?_set_cases)
        (by simp [ConnectStage.isUnderWay])
  | closes =>
      rw [List.append_nil]
      have hclosed := link_close hkept.remote
      refine ⟨?_, hkept.cleared, hkept.asked, ?_, ?_⟩
      · rw [hclosed]
        simp
      · intro hlink
        cases hclosed.symm.trans hlink
      · intro channel hlink
        cases hclosed.symm.trans hlink

theorem kept_after {trace : List Fact} (h : Kept l trace) (acts : List Act) :
    Kept (l.after acts) (trace ++ l.trace acts) := by
  induction acts generalizing l trace with
  | nil =>
      rw [Line.trace, List.append_nil]
      exact h
  | cons act rest ih =>
      have hrest := ih ((change_step l act).kept h)
      rw [List.append_assoc] at hrest
      exact hrest

/-- A channel is there exactly while the state is the connected one. -/
theorem isSome_channel?_iff (h : l.peer.link ≠ .here) :
    l.peer.channel?.isSome = true <-> l.peer.state = .connected := by
  unfold Peer.channel? Peer.state
  cases hlink : l.peer.link with
  | here => exact absurd hlink h
  | created => simp
  | connected channel => simp
  | closed => simp

theorem link_of_channel? {channel : Channel} (h : l.peer.channel? = some channel) :
    l.peer.link = .connected channel := by
  unfold Peer.channel? at h
  cases hlink : l.peer.link with
  | connected other =>
      rw [hlink] at h
      cases h
      rfl
  | here =>
      rw [hlink] at h
      cases h
  | created =>
      rw [hlink] at h
      cases h
  | closed =>
      rw [hlink] at h
      cases h

/-!
## After a close
-/

theorem closed_after (h : l.peer.link = .closed) (acts : List Act) :
    (l.after acts).peer.link = .closed ∧ forall n, Fact.returned n (.ok ()) ∉ l.trace acts := by
  induction acts generalizing l with
  | nil => exact ⟨h, by simp [Line.trace]⟩
  | cons act rest ih =>
      have hchange := change_step l act
      have hstep := hchange.leadsTo.link_eq_closed h
      rcases ih hstep with ⟨hend, hrest⟩
      refine ⟨hend, ?_⟩
      intro n hreturned
      rcases List.mem_append.mp hreturned with hfirst | hlater
      · have hconnected := hchange.obeys.ok n hfirst
        rw [(Peer.state_eq_closed_iff _).mpr hstep] at hconnected
        cases hconnected
      · exact hrest n hlater

/-!
## The peer of this node
-/

/-- The connects to this node are over at once, and with success. -/
structure AtHome (l : Line) (facts : List Fact) : Prop where
  here : l.peer.link = .here
  concluded : forall (n : Nat) (stage : ConnectStage), l.connects[n]? = some stage ->
    stage.isUnderWay = false
  unasked : forall n, Fact.asked n ∉ facts
  ok : forall n result, Fact.returned n result ∈ facts -> result = .ok ()

theorem atHome_ofSelf (a : Address) : AtHome (ofPeer (.ofSelf a)) [] := by
  refine ⟨rfl, ?_, by simp, by simp⟩
  intro n stage hstage
  cases hstage

theorem Change.atHome {trace : List Fact} (h : Change l l' facts) (hhome : AtHome l trace) :
    AtHome l' (trace ++ facts) := by
  have hunderWay : forall {n : Nat} {stage : ConnectStage}, l.connects[n]? = some stage ->
      ¬stage.isUnderWay = true := by
    intro n stage hstage
    rw [hhome.concluded n stage hstage]
    exact Bool.false_ne_true
  have hbegin : l.peer.beginConnect = .ended (.ok ()) := by
    unfold Peer.beginConnect
    rw [hhome.here]
  cases h with
  | rests =>
      rw [List.append_nil]
      exact hhome
  | ends result hresult =>
      cases hbegin.symm.trans hresult
      refine ⟨hhome.here, ?_, ?_, ?_⟩
      · intro n stage hstage
        rcases getElem?_concat_cases hstage with hold | ⟨_, rfl⟩
        · exact hhome.concluded n stage hold
        · rfl
      · intro n hasked
        rcases List.mem_append.mp hasked with hold | hnew
        · exact hhome.unasked n hold
        · rcases List.mem_pair.mp hnew with hfound | hreturned
          · cases hfound
          · cases hreturned
      · intro n result hreturned
        rcases List.mem_append.mp hreturned with hold | hnew
        · exact hhome.ok n result hold
        · rcases List.mem_pair.mp hnew with hfound | hreturned
          · cases hfound
          · cases hreturned
            rfl
  | clears hask => cases hbegin.symm.trans hask
  | asks n hstage => exact absurd rfl (hunderWay hstage)
  | completes n answer hstage => exact absurd rfl (hunderWay hstage)
  | drops n hstage hgoing => exact absurd hgoing (hunderWay hstage)
  | closes =>
      rw [List.append_nil]
      have hclose : l.peer.close = l.peer := by
        unfold Peer.close
        rw [hhome.here]
      refine ⟨?_, hhome.concluded, hhome.unasked, hhome.ok⟩
      rw [hclose]
      exact hhome.here

theorem atHome_after {trace : List Fact} (h : AtHome l trace) (acts : List Act) :
    AtHome (l.after acts) (trace ++ l.trace acts) := by
  induction acts generalizing l trace with
  | nil =>
      rw [Line.trace, List.append_nil]
      exact h
  | cons act rest ih =>
      have hrest := ih ((change_step l act).atHome h)
      rw [List.append_assoc] at hrest
      exact hrest

/-!
## The state machine
-/

/-- The connection of a remote obeys the rules in every act of every history; its channel is the
first one that has been delivered and is there exactly while it is connected; who asks the connector
has found a new link and hears the answer, and if the link is still new, then the channel connects
it; and after a close it stays closed and no connect succeeds. The peer of this node is always
connected, without a channel and without a question to a connector. -/
theorem connection_state_machine (a : Address) :
    (forall acts act, Obeys ((ofPeer (.ofRemote a)).after acts)
      (((ofPeer (.ofRemote a)).after acts).step act).1
      (((ofPeer (.ofRemote a)).after acts).step act).2) ∧
    (forall acts,
      (((ofPeer (.ofRemote a)).after acts).peer.channel?.isSome = true <->
        ((ofPeer (.ofRemote a)).after acts).peer.state = .connected) ∧
      forall channel, ((ofPeer (.ofRemote a)).after acts).peer.channel? = some channel ->
        (deliveries ((ofPeer (.ofRemote a)).trace acts)).head? = some channel) ∧
    (forall acts n, Fact.asked n ∈ (ofPeer (.ofRemote a)).trace acts ->
      Fact.found n .created ∈ (ofPeer (.ofRemote a)).trace acts) ∧
    (forall acts n answer,
      ((ofPeer (.ofRemote a)).after acts).connects[n]? = some .asking ->
        Fact.answered n answer ∈
          (((ofPeer (.ofRemote a)).after acts).step (.completes n answer)).2) ∧
    (forall before later,
      ((ofPeer (.ofRemote a)).after (before ++ .closes :: later)).peer.state = .closed ∧
      forall n, Fact.returned n (.ok ()) ∉
        ((ofPeer (.ofRemote a)).after (before ++ [.closes])).trace later) ∧
    forall acts,
      ((ofPeer (.ofSelf a)).after acts).peer.state = .connected ∧
      ((ofPeer (.ofSelf a)).after acts).peer.channel? = none ∧
      (forall n, Fact.asked n ∉ (ofPeer (.ofSelf a)).trace acts) ∧
      forall n result, Fact.returned n result ∈ (ofPeer (.ofSelf a)).trace acts ->
        result = .ok () := by
  have hkept : forall acts, Kept ((ofPeer (.ofRemote a)).after acts)
      ((ofPeer (.ofRemote a)).trace acts) := kept_after (kept_ofRemote a)
  refine ⟨?_, ?_, ?_, ?_, ?_, ?_⟩
  · intro acts act
    exact (change_step _ act).obeys
  · intro acts
    refine ⟨isSome_channel?_iff (hkept acts).remote, ?_⟩
    intro channel hchannel
    exact (hkept acts).connected channel (link_of_channel? hchannel)
  · intro acts
    exact (hkept acts).asked
  · intro acts n answer hasking
    exact answered_of_asking hasking answer
  · intro before later
    have hclosed : ((ofPeer (.ofRemote a)).after (before ++ [.closes])).peer.link = .closed := by
      rw [after_append]
      exact link_close (hkept before).remote
    rw [List.append_cons, after_append]
    rcases closed_after hclosed later with ⟨hend, hrest⟩
    exact ⟨(Peer.state_eq_closed_iff _).mpr hend, hrest⟩
  · intro acts
    have hhome : AtHome ((ofPeer (.ofSelf a)).after acts) ((ofPeer (.ofSelf a)).trace acts) :=
      atHome_after (atHome_ofSelf a) acts
    refine ⟨?_, ?_, hhome.unasked, hhome.ok⟩
    · unfold Peer.state
      rw [hhome.here]
    · unfold Peer.channel?
      rw [hhome.here]

end Line
end ClusterNode
