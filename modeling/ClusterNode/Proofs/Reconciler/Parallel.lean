import ClusterNode.Proofs.Reconciler.Likeness

/-!
# Parallel histories

Two histories with a common past run in parallel if the same runs succeed in them, told of the same
addresses in the same order. Whatever else happens, happens in one of them or in both: runs that
wait, fail or are dropped, connects that succeed or fail, peers that are closed from outside.
Parallel histories lead to lists of the same contents, and the next run comes to the same end in
both of them.
-/

namespace ClusterNode

namespace Reconciler

/-- Two histories with a common past in which the same runs succeed. The runs may have other
numbers, and they may have been told of the members in the past already. -/
inductive Parallel (r : Reconciler) (past : List Event) : List Event -> List Event -> Prop where
  | shared {history : List Event} : history <+: past -> Parallel r past history history
  | left {h h' : List Event} {event : Event} : past <+: h -> past <+: h' ->
      Parallel r past h h' -> (forall id, ¬Succeeds r h event id) ->
      Parallel r past (h ++ [event]) h'
  | right {h h' : List Event} {event : Event} : past <+: h -> past <+: h' ->
      Parallel r past h h' -> (forall id, ¬Succeeds r h' event id) ->
      Parallel r past h (h' ++ [event])
  | both {h h' before before' : List Event} {event event' : Event} {id id' : RunId}
      {queried : List Address} : past <+: h -> past <+: h' -> Parallel r past h h' ->
      Succeeds r h event id -> Succeeds r h' event' id' ->
      Told r (h ++ [event]) id before queried -> Told r (h' ++ [event']) id' before' queried ->
      Parallel r past before before' ->
      (r.after before').selfAddress = (r.after before).selfAddress ->
      Parallel r past (h ++ [event]) (h' ++ [event'])

variable {r : Reconciler} {history : List Event} {id : RunId}

theorem grows_step (hrooted : r.Rooted) (event : Event) :
    r.directory.Grows (r.step event).1.directory :=
  grows_after hrooted [event]

/-- The list stays as it is unless a run succeeds. -/
theorem same_list_concat (hrooted : r.Rooted) {event : Event}
    (h : forall id, ¬Succeeds r history event id) :
    (r.after (history ++ [event])).directory.published = (r.after history).directory.published ∧
      (r.after (history ++ [event])).directory.edition = (r.after history).directory.edition := by
  rw [after_concat]
  rcases published_step_cases (hrooted.run history) event with
    hsame | ⟨id, current, plan, hfinishes⟩
  · exact hsame
  · rcases hfinishes.succeeded with ⟨hnot, hsucceeded⟩
    rw [← after_concat] at hsucceeded
    exact absurd ⟨hnot, hsucceeded⟩ (h id)

def NoneSucceeds (r : Reconciler) (past later : List Event) : Prop :=
  forall id, (r.after (past ++ later)).Succeeded id -> (r.after past).Succeeded id

theorem noneSucceeds_nil (r : Reconciler) (past : List Event) : NoneSucceeds r past [] := by
  intro id hsucceeded
  rw [List.append_nil] at hsucceeded
  exact hsucceeded

theorem NoneSucceeds.concat {past later : List Event} {event : Event}
    (h : NoneSucceeds r past later) (hnot : forall id, ¬Succeeds r (past ++ later) event id) :
    NoneSucceeds r past (later ++ [event]) := by
  intro id hsucceeded
  rw [← List.append_assoc] at hsucceeded
  by_contra hpast
  exact hnot id ⟨fun hearlier => hpast (h id hearlier), hsucceeded⟩

theorem NoneSucceeds.of_concat (hlocked : r.Locked) {past later : List Event} {event : Event}
    (h : NoneSucceeds r past (later ++ [event])) :
    NoneSucceeds r past later ∧ forall id, ¬Succeeds r (past ++ later) event id := by
  have hold : NoneSucceeds r past later := by
    intro id hsucceeded
    apply h id
    rw [← List.append_assoc]
    exact hsucceeded.append hlocked [event]
  refine ⟨hold, ?_⟩
  intro id ⟨hnot, hsucceeded⟩
  rw [List.append_assoc] at hsucceeded
  exact hnot ((h id hsucceeded).append hlocked later)

theorem NoneSucceeds.same_list (hlocked : r.Locked) (hrooted : r.Rooted)
    {past later : List Event} (h : NoneSucceeds r past later) :
    (r.after (past ++ later)).directory.published = (r.after past).directory.published ∧
      (r.after (past ++ later)).directory.edition = (r.after past).directory.edition := by
  induction later using List.reverseRecOn with
  | nil =>
      rw [List.append_nil]
      exact ⟨rfl, rfl⟩
  | append_singleton later event ih =>
      rcases h.of_concat hlocked with ⟨hold, hnot⟩
      rcases ih hold with ⟨hpublished, hedition⟩
      rcases same_list_concat hrooted hnot with ⟨hpublished', hedition'⟩
      rw [← List.append_assoc]
      exact ⟨hpublished'.trans hpublished, hedition'.trans hedition⟩

theorem NoneSucceeds.parallel (hlocked : r.Locked) {past later later' : List Event}
    (h : NoneSucceeds r past later) (h' : NoneSucceeds r past later') :
    Parallel r past (past ++ later) (past ++ later') := by
  induction later using List.reverseRecOn with
  | nil =>
      induction later' using List.reverseRecOn with
      | nil =>
          rw [List.append_nil]
          exact Parallel.shared (List.prefix_refl past)
      | append_singleton later' event ih' =>
          rcases h'.of_concat hlocked with ⟨hold, hnot⟩
          rw [← List.append_assoc]
          exact Parallel.right (List.prefix_append past []) (List.prefix_append past later')
            (ih' hold) hnot
  | append_singleton later event ih =>
      rcases h.of_concat hlocked with ⟨hold, hnot⟩
      rw [← List.append_assoc]
      exact Parallel.left (List.prefix_append past later) (List.prefix_append past later')
        (ih hold) hnot

theorem NoneSucceeds.starts {past later : List Event} (h : NoneSucceeds r past later)
    (kind : RunKind) : NoneSucceeds r past (later ++ [.begun kind, .granted]) := by
  have hbegun : forall id, ¬Succeeds r (past ++ later) (.begun kind) id := by
    intro id hsucceeds
    rcases hsucceeds.exists_finishes with ⟨_, _, _, _, _, hopening, _⟩
    cases hopening
  have hgranted : forall id, ¬Succeeds r (past ++ (later ++ [.begun kind])) .granted id := by
    intro id hsucceeds
    rcases hsucceeds.exists_finishes with ⟨_, _, _, _, _, hopening, _⟩
    cases hopening
  rw [List.append_cons]
  exact (h.concat hbegun).concat hgranted

theorem Solo.noneSucceeds {past later : List Event} (h : (r.after past).Solo id later)
    (hnot : ¬(r.after (past ++ later)).Succeeded id) : NoneSucceeds r past later := by
  intro other hsucceeded
  by_cases hid : id = other
  · subst hid
    exact absurd hsucceeded hnot
  · rcases hsucceeded with ⟨outcome, hend⟩
    rw [after_append, h.stage?_eq hid] at hend
    exact ⟨outcome, hend⟩

/-!
## What a run is told of stays there

The peers that a run creates are there from its answer on. At the end of the run the list is as
before, or it is the one that was decided.
-/

theorem grows_staged_step {queried : List Address} (hs : r.stage? id = some .querying) :
    (r.staged queried).Grows (r.step (.answered id (.ok queried))).1.directory := by
  show (r.staged queried).Grows (r.answer id (.ok queried)).1.directory
  rw [answer_told hs]
  unfold connect
  split
  · exact grows_complete { r with directory := r.staged queried } id _ _ _
  · exact Directory.Grows.refl _

theorem Told.grows {before : List Event} {queried : List Address} (hrooted : r.Rooted)
    (h : Told r history id before queried) :
    ((r.after before).staged queried).Grows (r.after history).directory := by
  rcases h with ⟨⟨later, rfl⟩, hs⟩
  rw [after_append]
  have hlater := grows_after ((hrooted.run before).step (.answered id (.ok queried))) later
  exact (grows_staged_step hs).trans hlater

theorem Succeeds.published_eq (hlocked : r.Locked) (hrooted : r.Rooted)
    (hnew : r.stage? id = none) {event : Event} {before : List Event} {queried : List Address}
    (h : Succeeds r history event id) (htold : Told r (history ++ [event]) id before queried) :
    (r.after (history ++ [event])).directory.published =
      ((r.after before).decision queried).list (r.after history).directory.published := by
  rcases h.exists_finishes with ⟨current, plan, hfinishes⟩
  rcases hfinishes.exists_told hlocked hrooted hnew with ⟨before', queried', htold', _, rfl, _⟩
  rcases htold.unique hlocked htold' with ⟨rfl, rfl⟩
  exact hfinishes.published_eq (hrooted.run history).known

theorem listed_after (hlocked : r.Locked) (hrooted : r.Rooted) (hnew : r.runs = [])
    (hlisted : r.Listed) (history : List Event) : (r.after history).Listed := by
  induction history using List.reverseRecOn with
  | nil => exact hlisted
  | append_singleton history event ih =>
      have hstep : (r.after history).directory.Grows (r.after (history ++ [event])).directory := by
        rw [after_concat]
        exact grows_step (hrooted.run history) event
      have hkept : (r.after (history ++ [event])).directory.published =
          (r.after history).directory.published -> (r.after (history ++ [event])).Listed := by
        intro hsame
        rcases ih with ⟨addresses, hranked, hlists⟩
        refine ⟨addresses, hranked, ?_⟩
        rw [hsame]
        exact hlists.grows hstep
      by_cases hsucceeds : exists id, Succeeds r history event id
      · rcases hsucceeds with ⟨id, hsucceeds⟩
        have hnone := stage?_eq_none_of_nil hnew id
        rcases hsucceeds.exists_finishes with ⟨current, plan, hfinishes⟩
        rcases hfinishes.exists_told hlocked hrooted hnone with
          ⟨before, queried, htold, _, _, _⟩
        have hlist := hsucceeds.published_eq hlocked hrooted hnone htold
        have hknown := (hrooted.run before).known
        by_cases hconfirms : (r.after before).confirms queried = true
        · rw [decision_of_confirms hconfirms] at hlist
          exact hkept hlist
        · have hgrows := htold.grows hrooted
          rw [staged_of_not_confirms hknown hconfirms] at hgrows
          rw [decision_of_not_confirms hknown hconfirms] at hlist
          refine ⟨_, Topology.ranked_normalize (r.after before).selfAddress queried, ?_⟩
          rw [hlist]
          exact lists_nextOf.grows hgrows
      · exact hkept (same_list_concat hrooted (not_exists.mp hsucceeds)).left

theorem listed_create (internalAddress : Option Address) (check : HealthCheck) :
    (create internalAddress check).Listed :=
  ⟨[], List.Pairwise.nil, List.Forall₂.nil⟩

/-!
## The same contents
-/

section Parallel

variable {past h h' : List Event} (hlocked : r.Locked) (hrooted : r.Rooted) (hnew : r.runs = [])
  (hlisted : r.Listed)

def sizeAfter (r : Reconciler) (past : List Event) : Nat := (r.after past).directory.peers.length

include hrooted

theorem sizeAfter_le (hearlier : past <+: h) : r.sizeAfter past ≤ r.sizeAfter h := by
  rcases hearlier with ⟨later, rfl⟩
  unfold sizeAfter
  rw [after_append]
  exact (grows_after (hrooted.run past) later).length_le

theorem Parallel.fresh (hparallel : Parallel r past h h') :
    r.sizeAfter h = r.sizeAfter h' ∨
      r.sizeAfter past ≤ r.sizeAfter h ∧ r.sizeAfter past ≤ r.sizeAfter h' := by
  have hle : forall {h event}, past <+: h -> r.sizeAfter past ≤ r.sizeAfter (h ++ [event]) :=
    fun hearlier => sizeAfter_le hrooted (hearlier.trans (List.prefix_append _ _))
  cases hparallel with
  | shared _ => exact Or.inl rfl
  | left hearlier hearlier' _ _ => exact Or.inr ⟨hle hearlier, sizeAfter_le hrooted hearlier'⟩
  | right hearlier hearlier' _ _ => exact Or.inr ⟨sizeAfter_le hrooted hearlier, hle hearlier'⟩
  | both hearlier hearlier' _ _ _ _ _ _ _ => exact Or.inr ⟨hle hearlier, hle hearlier'⟩

include hlocked hnew hlisted

/-- Parallel histories lead to lists of the same contents. -/
theorem Parallel.twins (hparallel : Parallel r past h h') :
    Twins (r.sizeAfter past) (r.after h).directory (r.after h').directory
      (r.after h).directory.published (r.after h').directory.published := by
  have hnone := stage?_eq_none_of_nil hnew
  have hgrows : forall h event, (r.after h).directory.Grows (r.after (h ++ [event])).directory := by
    intro h event
    rw [after_concat]
    exact grows_step (hrooted.run h) event
  induction hparallel with
  | shared _ => exact twins_self _ (hrooted.run _).known
  | @left h h' event _ _ _ hnot ih =>
      rw [(same_list_concat hrooted hnot).left]
      exact ih.grows (hgrows h event) (Directory.Grows.refl _)
  | @right h h' event _ _ _ hnot ih =>
      rw [(same_list_concat hrooted hnot).left]
      exact ih.grows (Directory.Grows.refl _) (hgrows h' event)
  | @both h h' before before' event event' id id' queried _ _ _ hsucceeds hsucceeds' htold htold'
      hbefore hself ih ihbefore =>
      have halike : Alike (r.sizeAfter past) (r.after before) (r.after before') :=
        ⟨hself, ihbefore, hbefore.fresh hrooted⟩
      have hplans := halike.decision_alike
        (listed_after hlocked hrooted hnew hlisted before)
        (listed_after hlocked hrooted hnew hlisted before') queried
      rw [hsucceeds.published_eq hlocked hrooted (hnone id) htold,
        hsucceeds'.published_eq hlocked hrooted (hnone id') htold']
      exact hplans.twins_list (htold.grows hrooted) (htold'.grows hrooted)
        (ih.grows (hgrows h event) (hgrows h' event'))

theorem Parallel.alike (hparallel : Parallel r past h h')
    (hself : (r.after h').selfAddress = (r.after h).selfAddress) :
    Alike (r.sizeAfter past) (r.after h) (r.after h') :=
  ⟨hself, hparallel.twins hlocked hrooted hnew hlisted, hparallel.fresh hrooted⟩

end Parallel

/-!
## The next run

A run that is told of addresses, and is not dropped, comes to the end that it has decided, however
the connectors answer.
-/

section Next

variable (hlocked : r.Locked) (hrooted : r.Rooted) (hnew : r.runs = [])

include hlocked hrooted hnew

theorem end_of_told {queried : List Address} (hs : (r.after history).stage? id = some .querying)
    {later : List Event} {result : Except ClusterError RunOutcome}
    (hend : (r.after (history ++ .answered id (.ok queried) :: later)).stage? id =
      some (.finished result)) :
    result = .ok ((r.after history).outcomeOf queried) ∧
      (r.share id (history ++ .answered id (.ok queried) :: later)).filter Effect.isCommit =
        (r.after history).commitsOf queried := by
  have htold : Told r (history ++ .answered id (.ok queried) :: later) id history queried :=
    ⟨⟨later, rfl⟩, hs⟩
  have htally := tally_after hlocked hrooted (stage?_eq_none_of_nil hnew id)
    (history ++ .answered id (.ok queried) :: later)
  rw [hend] at htally
  cases result with
  | ok outcome =>
      rcases htally with ⟨before, queried', htold', houtcome, hcommits⟩
      rcases htold'.unique hlocked htold with ⟨rfl, rfl⟩
      exact ⟨congrArg Except.ok houtcome, hcommits⟩
  | error e =>
      rcases beyondQuery_told hs queried with ⟨s, hstage, hbeyond⟩
      rcases beyondQuery_after ((hlocked.run history).step _) hstage hbeyond later with
        ⟨t, ht, hbeyond'⟩
      rw [after_append] at hend
      cases ht.symm.trans hend
      exact hbeyond'.elim

/-- However the connectors answer, a run that is told of addresses comes to its end. -/
theorem exists_end_of_told (hs : (r.after history).stage? id = some .querying)
    (queried : List Address) (connector : Nat -> Except ClusterError Channel) :
    exists later, (forall e, e ∈ later -> exists k, e = .replied id k (connector k)) ∧
      (r.after (history ++ .answered id (.ok queried) :: later)).Succeeded id := by
  rcases exists_end (hrooted.run history) hs (.ok queried) connector with
    ⟨later, result, hlater, hend⟩
  rw [← after_append] at hend
  rcases end_of_told hlocked hrooted hnew hs hend with ⟨rfl, _⟩
  exact ⟨later, hlater, _, hend⟩

theorem end_of_failed {e : ClusterError} (hs : (r.after history).stage? id = some .querying)
    {later : List Event} {result : Except ClusterError RunOutcome}
    (hend : (r.after (history ++ .answered id (.error e) :: later)).stage? id =
      some (.finished result)) :
    result = .error e ∧
      (r.share id (history ++ .answered id (.error e) :: later)).filter Effect.isCommit = [] := by
  have hfailed : ((r.after history).step (.answered id (.error e))).1.stage? id =
      some (.finished (.error e)) := stage?_answer_error hs e
  have hstays := stage?_after_of_isOver ((hlocked.run history).step _) hfailed rfl later
  have htally := tally_after hlocked hrooted (stage?_eq_none_of_nil hnew id)
    (history ++ .answered id (.error e) :: later)
  rw [hend] at htally
  rw [after_append] at hend
  cases hstays.symm.trans hend
  refine ⟨rfl, ?_⟩
  rw [htally]
  exact filter_isCommit_failed id e _

end Next

/-- A run that queries after each of the histories and gets the same answer comes to the same end in
both of them, however its connects go: the result is the same, and so are the contents of the list
that it publishes and the peers that it closes. -/
def SameNext (r : Reconciler) (past h h' : List Event) : Prop :=
  forall id id' answer later later' result result',
    (r.after h).stage? id = some .querying -> (r.after h').stage? id' = some .querying ->
    (r.after (h ++ .answered id answer :: later)).stage? id = some (.finished result) ->
    (r.after (h' ++ .answered id' answer :: later')).stage? id' = some (.finished result') ->
    result' = result ∧
      List.Forall₂ (Effect.Alike (r.sizeAfter past)
          (r.after (h ++ .answered id answer :: later)).directory
          (r.after (h' ++ .answered id' answer :: later')).directory)
        ((r.share id (h ++ .answered id answer :: later)).filter Effect.isCommit)
        ((r.share id' (h' ++ .answered id' answer :: later')).filter Effect.isCommit)

theorem Parallel.sameNext {past h h' : List Event} (hlocked : r.Locked) (hrooted : r.Rooted)
    (hnew : r.runs = []) (hlisted : r.Listed) (hparallel : Parallel r past h h')
    (hself : (r.after h').selfAddress = (r.after h).selfAddress) : SameNext r past h h' := by
  intro id id' answer later later' result result' hs hs' hend hend'
  cases answer with
  | error e =>
      rcases end_of_failed hlocked hrooted hnew hs hend with ⟨hresult, hcommits⟩
      rcases end_of_failed hlocked hrooted hnew hs' hend' with ⟨hresult', hcommits'⟩
      rw [hcommits, hcommits']
      exact ⟨hresult'.trans hresult.symm, List.Forall₂.nil⟩
  | ok queried =>
      rcases end_of_told hlocked hrooted hnew hs hend with ⟨hresult, hcommits⟩
      rcases end_of_told hlocked hrooted hnew hs' hend' with ⟨hresult', hcommits'⟩
      have halike := hparallel.alike hlocked hrooted hnew hlisted hself
      have hl := listed_after hlocked hrooted hnew hlisted h
      have hl' := listed_after hlocked hrooted hnew hlisted h'
      have htold : Told r (h ++ .answered id (.ok queried) :: later) id h queried :=
        ⟨⟨later, rfl⟩, hs⟩
      have htold' : Told r (h' ++ .answered id' (.ok queried) :: later') id' h' queried :=
        ⟨⟨later', rfl⟩, hs'⟩
      constructor
      · rw [hresult, hresult', halike.outcomeOf_eq hl hl' queried]
      · rw [hcommits, hcommits']
        exact (halike.commitsOf_alike hl hl' queried).imp fun _ _ heffect =>
          heffect.grows (htold.grows hrooted) (htold'.grows hrooted)

end Reconciler
end ClusterNode
