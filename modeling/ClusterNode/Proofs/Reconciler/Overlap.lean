import ClusterNode.Proofs.Reconciler.Ledger
import ClusterNode.Proofs.Reconciler.Share

/-!
# Runs that overlap

A run decides about its list when it is told of the members, and publishes it when its connects are
over. If no list is published in the meantime, the list that it replaces is the one that it has
seen, and no peer is lost. Runs that take the lock are safe for that reason; a bare run may come in
between, and then a published peer is left open for good.
-/

namespace ClusterNode
namespace Reconciler

/-- No list is published while another run is at its connects. -/
def Uncrossed (r : Reconciler) (history : List Event) : Prop :=
  forall before event later, history = before ++ event :: later ->
    Alone ((r.after before).step event).1 ((r.after before).step event).2

variable {r : Reconciler} {history : List Event}

theorem Uncrossed.of_append {more : List Event} (h : Uncrossed r (history ++ more)) :
    Uncrossed r history := by
  intro before event later hsplit
  apply h before event (later ++ more)
  rw [hsplit, List.append_assoc]
  rfl

theorem Uncrossed.head {event : Event} {rest : List Event} (h : Uncrossed r (event :: rest)) :
    Alone (r.step event).1 (r.step event).2 :=
  h [] event rest rfl

theorem Uncrossed.tail {event : Event} {rest : List Event} (h : Uncrossed r (event :: rest)) :
    Uncrossed (r.step event).1 rest := by
  intro before event' later hsplit
  apply h (event :: before) event' later
  rw [hsplit]
  rfl

theorem uncrossed_of_takesLock (horderly : r.Orderly)
    (hlock : forall event, event ∈ history -> event.TakesLock) : Uncrossed r history := by
  intro before event later hsplit
  apply (horderly.run fun e he => ?_).alone event
  apply hlock e
  rw [hsplit]
  exact List.mem_append_left _ he

theorem Account.run {trace : List Effect} (h : Account r trace)
    (hinner : forall event, event ∈ history -> event.IsInner) (huncrossed : Uncrossed r history) :
    Account (r.after history) (trace ++ r.trace history) := by
  induction history generalizing r trace with
  | nil =>
      rw [Reconciler.trace, List.append_nil]
      exact h
  | cons event rest ih =>
      have hstep := h.step (hinner event List.mem_cons_self) huncrossed.head
      have hrest := ih hstep (fun e he => hinner e (List.mem_cons_of_mem event he))
        huncrossed.tail
      rwa [List.append_assoc] at hrest

/-!
## While a run is at its connects

If all runs take the lock, none of them publishes during the connects of another one. A step after
which a run is at its connects keeps the list, and between its answer and its end a run is at its
connects. So what a run replaces at its end is the list that it has seen.
-/

def SameList (r r' : Reconciler) : Prop :=
  r'.directory.published = r.directory.published ∧ r'.directory.edition = r.directory.edition

theorem SameList.trans {r₁ r₂ r₃ : Reconciler} (h₁₂ : SameList r₁ r₂) (h₂₃ : SameList r₂ r₃) :
    SameList r₁ r₃ :=
  ⟨h₂₃.left.trans h₁₂.left, h₂₃.right.trans h₁₂.right⟩

theorem sameList_step (hrooted : r.Rooted) {event : Event}
    (halone : Alone (r.step event).1 (r.step event).2) {id : RunId} {current : List PeerId}
    {plan : Plan} {attempts : List Attempt}
    (hs : (r.step event).1.stage? id = some (.connecting current plan attempts)) :
    SameList r (r.step event).1 :=
  same_list_of_quiet hrooted.known (halone.quiet hs)

theorem connecting_of_told (hlocked : r.Locked) {id : RunId} {before : List Event}
    {queried : List Address} (htold : Told r history id before queried) {event : Event}
    {s : RunStage} (hs : (r.after (history ++ [event])).stage? id = some s)
    (hgoing : s.isOver = false) :
    exists current plan attempts,
      (r.after history).stage? id = some (.connecting current plan attempts) := by
  rcases htold with ⟨⟨later, rfl⟩, hquerying⟩
  rcases beyondQuery_told hquerying queried with ⟨t, ht, hbeyond⟩
  rcases beyondQuery_after ((hlocked.run before).step _) ht hbeyond later with
    ⟨t, ht, hbeyond⟩
  have ht' : (r.after (before ++ Event.answered id (.ok queried) :: later)).stage? id = some t := by
    rw [after_append]
    exact ht
  have hstays : t.isOver = true -> s = t := by
    intro hover
    have hend := stage?_step_of_isOver (hlocked.run _) ht' hover event
    rw [after_append] at hs
    exact Option.some.inj (hs.symm.trans hend)
  cases t with
  | waiting => cases hbeyond
  | querying => cases hbeyond
  | connecting current plan attempts => exact ⟨current, plan, attempts, ht'⟩
  | finished result =>
      rw [hstays rfl] at hgoing
      cases hgoing
  | abandoned =>
      rw [hstays rfl] at hgoing
      cases hgoing

theorem sameList_of_connecting (hlocked : r.Locked) (hrooted : r.Rooted)
    (huncrossed : Uncrossed r history) {id : RunId} {before : List Event}
    {queried : List Address} (htold : Told r history id before queried) {current : List PeerId}
    {plan : Plan} {attempts : List Attempt}
    (hs : (r.after history).stage? id = some (.connecting current plan attempts)) :
    SameList (r.after before) (r.after history) := by
  rcases htold with ⟨⟨later, rfl⟩, hquerying⟩
  induction later using List.reverseRecOn generalizing current plan attempts with
  | nil =>
      rw [after_append] at hs ⊢
      exact sameList_step (hrooted.run before) (huncrossed before _ [] rfl) hs
  | append_singleton later event ih =>
      have hsplit : before ++ Event.answered id (.ok queried) :: (later ++ [event]) =
          (before ++ Event.answered id (.ok queried) :: later) ++ [event] := by
        rw [List.append_assoc]
        rfl
      rw [hsplit] at huncrossed hs ⊢
      have htold : Told r (before ++ Event.answered id (.ok queried) :: later) id before queried :=
        ⟨⟨later, rfl⟩, hquerying⟩
      rcases connecting_of_told hlocked htold hs rfl with ⟨current', plan', attempts', hs'⟩
      have hbefore := ih huncrossed.of_append hs'
      rw [after_append] at hs ⊢
      exact hbefore.trans (sameList_step (hrooted.run _) (huncrossed _ event [] rfl) hs)

/-- The list before a run that comes to its end is the one that it has seen when it was told. -/
theorem Finishes.sameList {id : RunId} {event : Event} {current : List PeerId} {plan : Plan}
    {r' : Reconciler} {effects : List Effect} (hlocked : r.Locked) (hrooted : r.Rooted)
    (hnew : r.stage? id = none) (huncrossed : Uncrossed r history)
    (h : Finishes (r.after history) id event current plan r' effects) :
    exists before queried, Told r (history ++ [event]) id before queried ∧
      plan = (r.after before).decision queried ∧ SameList (r.after before) (r.after history) := by
  rcases h with ⟨d, opening, attempts, hopening, _, _⟩
  cases hopening with
  | told queried hs => exact ⟨history, queried, ⟨⟨[], rfl⟩, hs⟩, rfl, rfl, rfl⟩
  | heard attempt answer hs _ =>
      have htally := tally_after hlocked hrooted hnew history
      rw [hs] at htally
      rcases htally with ⟨_, _, before, queried, htold, _, hplan⟩
      exact ⟨before, queried, htold.append _, hplan,
        sameList_of_connecting hlocked hrooted huncrossed htold hs⟩

theorem uncrossed_nil (r : Reconciler) : Uncrossed r [] := by
  intro before event later hsplit
  simp at hsplit

theorem uncrossed_cons_iff {event : Event} {rest : List Event} :
    Uncrossed r (event :: rest) <->
      Alone (r.step event).1 (r.step event).2 ∧ Uncrossed (r.step event).1 rest := by
  constructor
  · intro h
    exact ⟨h.head, h.tail⟩
  · intro ⟨hhead, htail⟩ before event' later hsplit
    cases before with
    | nil =>
        cases hsplit
        exact hhead
    | cons first before =>
        cases hsplit
        exact htail before event' later rfl

def Effect.isList : Effect -> Bool
  | .published _ => true
  | _ => false

def RunStage.isConnecting : RunStage -> Bool
  | .connecting _ _ _ => true
  | _ => false

theorem alone_iff {effects : List Effect} : Alone r effects <->
    (effects.any Effect.isList = true ->
      forall run, run ∈ r.runs -> RunStage.isConnecting run.stage = false) := by
  have hlist : (exists next, Effect.published next ∈ effects) <->
      effects.any Effect.isList = true := by
    rw [List.any_eq_true]
    constructor
    · intro ⟨next, hnext⟩
      exact ⟨_, hnext, rfl⟩
    · intro ⟨e, he, hislist⟩
      cases e with
      | published next => exact ⟨next, he⟩
      | _ => cases hislist
  unfold Alone
  rw [hlist]
  constructor
  · intro h hany run hrun
    rcases List.mem_iff_getElem?.mp hrun with ⟨id, hid⟩
    cases hs : run.stage with
    | connecting current plan attempts =>
        have hstage : r.stage? id = some (.connecting current plan attempts) := by
          unfold stage?
          rw [hid, Option.map_some, hs]
        exact absurd hstage (h hany id current plan attempts)
    | _ => rfl
  · intro h hany id current plan attempts hstage
    rcases Option.map_eq_some_iff.mp hstage with ⟨run, hrun, hs⟩
    have hnot := h hany run (List.mem_of_getElem? hrun)
    rw [hs] at hnot
    cases hnot

def Effect.lists (id : PeerId) : Effect -> Bool
  | .published next => next.contains id
  | _ => false

theorem wasPublished_iff {trace : List Effect} {id : PeerId} :
    WasPublished trace id <-> trace.any (Effect.lists id) = true := by
  rw [List.any_eq_true]
  constructor
  · intro ⟨next, hnext, hid⟩
    exact ⟨_, hnext, List.contains_iff_mem.mpr hid⟩
  · intro ⟨e, he, hlists⟩
    cases e with
    | published next => exact ⟨next, he, List.contains_iff_mem.mp hlists⟩
    | _ => cases hlists

instance (trace : List Effect) (id : PeerId) : Decidable (WasPublished trace id) :=
  decidable_of_iff _ wasPublished_iff.symm

instance (r : Reconciler) (effects : List Effect) : Decidable (Alone r effects) :=
  decidable_of_iff _ alone_iff.symm

instance decidableUncrossed : (history : List Event) -> (r : Reconciler) ->
    Decidable (Uncrossed r history)
  | [], r => isTrue (uncrossed_nil r)
  | event :: rest, r =>
      have := decidableUncrossed rest (r.step event).1
      decidable_of_iff _ uncrossed_cons_iff.symm

/-!
## No lost update
-/

/-- In a history without crossing runs, every list that is published replaces the very list that its
run has seen; every remote that was published and is off the list is closed, and no remote of the
list is. -/
theorem no_lost_update (internalAddress : Option Address) (check : HealthCheck)
    {history : List Event} (hinner : forall event, event ∈ history -> event.IsInner)
    (huncrossed : Uncrossed (create internalAddress check) history) :
    (forall before event later next, history = before ++ event :: later ->
      Effect.published next ∈ (((create internalAddress check).after before).step event).2 ->
      exists id past queried created kept,
        Told (create internalAddress check) (before ++ [event]) id past queried ∧
        ((create internalAddress check).after past).decision queried =
          .replace next created kept ∧
        SameList ((create internalAddress check).after past)
          ((create internalAddress check).after before)) ∧
    (forall n, WasPublished ((create internalAddress check).trace history) n ->
      n ∉ ((create internalAddress check).after history).directory.published ->
      exists p, ((create internalAddress check).after history).directory.peer? n = some p ∧
        (p.isSelf = false -> p.state = .closed)) ∧
    forall n p, n ∈ ((create internalAddress check).after history).directory.published ->
      ((create internalAddress check).after history).directory.peer? n = some p ->
      p.isSelf = false -> p.state ≠ .closed := by
  have haccount := (account_create internalAddress check).run hinner huncrossed
  rw [List.nil_append] at haccount
  have hfaithful := haccount.record.faithful
  refine ⟨?_, ?_, ?_⟩
  · intro before event later next hsplit hnext
    cases howner : ((create internalAddress check).after before).owner? event with
    | none => exact absurd hnext ((aside_step howner).quiet next)
    | some id =>
        rcases (turn_step howner).exists_finishes hnext with ⟨current, created, kept, hfinishes⟩
        rw [hsplit] at huncrossed
        rcases hfinishes.sameList (locked_create internalAddress check)
          (rooted_create internalAddress check) rfl huncrossed.of_append with
          ⟨past, queried, htold, hplan, hsame⟩
        exact ⟨id, past, queried, created, kept, htold, hplan.symm, hsame⟩
  · rw [← haccount.built]
    exact hfaithful.retired
  · intro n p hn hp hself hclosed
    rw [← haccount.built] at hn hp
    exact haccount.record.fit.unclosed n p hp ((Peer.state_eq_closed_iff p).mp hclosed) hn

/-- A bare run comes to its end while a serial run still queries. -/
def overlap : List Event :=
  [.begun .bare, .answered 0 (.ok [memberA]), .begun .serial, .granted, .replied 0 0 (.ok 1),
    .answered 1 (.ok [memberB]), .replied 1 0 (.ok 2)]

theorem no_lost_update_of_overlap :
    (forall event, event ∈ overlap -> event.IsInner) ∧
    Uncrossed (create none (NodeHealth.check false)) overlap ∧
    forall n, WasPublished ((create none (NodeHealth.check false)).trace overlap) n ->
      n ∉ ((create none (NodeHealth.check false)).after overlap).directory.published ->
      exists p, ((create none (NodeHealth.check false)).after overlap).directory.peer? n = some p ∧
        (p.isSelf = false -> p.state = .closed) := by
  have hinner : forall event, event ∈ overlap -> event.IsInner := by
    simp [overlap, Event.IsInner]
  have huncrossed : Uncrossed (create none (NodeHealth.check false)) overlap := by
    decide +kernel
  exact ⟨hinner, huncrossed,
    (no_lost_update none (NodeHealth.check false) hinner huncrossed).right.left⟩

/-- A bare run is told of one member and comes to its end while a serial run connects another one,
of which it was told before. -/
def crossing : List Event :=
  [.begun .serial, .granted, .answered 0 (.ok [memberA]), .begun .bare,
    .answered 1 (.ok [memberB]), .replied 1 0 (.ok 1), .replied 0 0 (.ok 2)]

/-- The serial run replaces a list that it has not seen, and its peer is left open. -/
theorem lost_update_of_crossing :
    (forall event, event ∈ crossing -> event.IsInner) ∧
    ¬Uncrossed (create none (NodeHealth.check false)) crossing ∧
    (forall id, id ∈ [0, 1] ->
      ((create none (NodeHealth.check false)).after crossing).isOver id = true) ∧
    WasPublished ((create none (NodeHealth.check false)).trace crossing) 1 ∧
    ((create none (NodeHealth.check false)).after crossing).directory.published = [0] ∧
    ((create none (NodeHealth.check false)).after crossing).directory.peer? 1 =
      some { address := memberB, link := .connected 1 } := by
  refine ⟨?_, ?_, ?_, ?_, ?_, ?_⟩
  · simp [crossing, Event.IsInner]
  · decide +kernel
  · decide +kernel
  · decide +kernel
  · decide +kernel
  · decide +kernel

end Reconciler
end ClusterNode
