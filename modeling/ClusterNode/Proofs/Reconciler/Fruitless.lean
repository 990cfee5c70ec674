import ClusterNode.Proofs.Reconciler.Parallel

/-!
# Runs that come to nothing

A run whose query fails, or that is dropped at one of its waits, leaves the published list, the
address of this node and the closes alone. It may have connected peers that were published already,
and peers of its own that nobody will ever publish. The lock is free after it, and the next run ends
as it would have ended without it.
-/

namespace ClusterNode
namespace Reconciler

def Fruitless (r : Reconciler) (id : RunId) : Prop :=
  r.stage? id = some .abandoned ∨ exists e, r.stage? id = some (.finished (.error e))

/-- The peer has got its number in a step of the run. -/
def Made (r : Reconciler) (history : List Event) (id : RunId) (n : PeerId) : Prop :=
  exists before event, before ++ [event] <+: history ∧
    (r.after before).owner? event = some id ∧
    r.sizeAfter before ≤ n ∧ n < r.sizeAfter (before ++ [event])

/-- The list and its edition, the address of this node and the peers stay as they are, except that
some of the peers get a channel. -/
structure Spares (r r' : Reconciler) (reached : PeerId -> Prop) : Prop where
  published : r'.directory.published = r.directory.published
  edition : r'.directory.edition = r.directory.edition
  selfAddress : r'.selfAddress = r.selfAddress
  peers : forall n p, r.directory.peer? n = some p -> exists q, r'.directory.peer? n = some q ∧
    (q = p ∨ reached n ∧ p.link = .created ∧
      exists channel, q = { p with link := .connected channel })

section Run

variable {r : Reconciler} {history : List Event} {id : RunId} {n : PeerId}

theorem Fruitless.exists_over (h : r.Fruitless id) :
    exists s, r.stage? id = some s ∧ s.isOver = true := by
  rcases h with hs | ⟨e, hs⟩
  · exact ⟨_, hs, rfl⟩
  · exact ⟨_, hs, rfl⟩

theorem fruitless_of_isOver (hid : id < r.runs.length) (hover : r.isOver id = true)
    (hnot : ¬r.Succeeded id) : r.Fruitless id := by
  have hs : r.stage? id = some r.runs[id].stage := by simp [stage?, hid]
  rw [isOver_eq hs] at hover
  unfold Succeeded at hnot
  unfold Fruitless
  rw [hs] at hnot ⊢
  cases hstage : r.runs[id].stage with
  | finished result =>
      cases result with
      | ok outcome => exact absurd ⟨outcome, congrArg some hstage⟩ hnot
      | error e => exact Or.inr ⟨e, rfl⟩
  | abandoned => exact Or.inl rfl
  | waiting =>
      rw [hstage] at hover
      cases hover
  | querying =>
      rw [hstage] at hover
      cases hover
  | connecting _ _ _ =>
      rw [hstage] at hover
      cases hover

theorem Fruitless.not_succeeded (h : r.Fruitless id) : ¬r.Succeeded id := by
  intro ⟨outcome, hend⟩
  rcases h with hs | ⟨e, hs⟩
  · cases hs.symm.trans hend
  · cases hs.symm.trans hend

theorem Fruitless.append (h : (r.after history).Fruitless id) (hlocked : r.Locked)
    (more : List Event) : (r.after (history ++ more)).Fruitless id := by
  rcases h with hs | ⟨e, hs⟩
  · exact Or.inl (stage?_append_of_isOver hlocked hs rfl more)
  · exact Or.inr ⟨e, stage?_append_of_isOver hlocked hs rfl more⟩

/-!
## The peers that a run makes

A peer is made by one run only. The peers of a decided list have been published before, or the run
has made them, and only a run that has succeeded has its peers published.
-/

theorem Made.append (h : Made r history id n) (more : List Event) :
    Made r (history ++ more) id n := by
  rcases h with ⟨before, event, hearlier, howner, hmade⟩
  exact ⟨before, event, hearlier.trans (List.prefix_append history more), howner, hmade⟩

theorem Made.unique (hrooted : r.Rooted) {other : RunId} (h : Made r history id n)
    (hother : Made r history other n) : id = other := by
  -- Once the number is in use, it is not given again.
  have hlater : forall {a b : List Event} {event : Event}, a ++ [event] <+: b ->
      n < r.sizeAfter (a ++ [event]) -> ¬r.sizeAfter b ≤ n := by
    intro a b event hearlier hmade hfree
    have hle := Nat.le_trans (sizeAfter_le hrooted hearlier) hfree
    exact Nat.lt_irrefl n (Nat.lt_of_lt_of_le hmade hle)
  rcases h with ⟨a, event, ha, howner, hfree, hmade⟩
  rcases hother with ⟨b, event', hb, howner', hfree', hmade'⟩
  rcases List.prefix_or_prefix_of_prefix ha hb with hab | hba
  · rcases List.prefix_concat_iff.mp hab with heq | hearlier
    · rcases List.append_inj' heq rfl with ⟨rfl, hevent⟩
      cases hevent
      exact Option.some.inj (howner.symm.trans howner')
    · exact absurd hfree' (hlater hearlier hmade)
  · rcases List.prefix_concat_iff.mp hba with heq | hearlier
    · rcases List.append_inj' heq rfl with ⟨rfl, hevent⟩
      cases hevent
      exact Option.some.inj (howner.symm.trans howner')
    · exact absurd hfree (hlater hearlier hmade')

theorem mem_list_decision_cases
    (hknown : forall id, id ∈ r.directory.published -> id < r.directory.peers.length)
    {queried : List Address} (h : n ∈ (r.decision queried).list r.directory.published) :
    n ∈ r.directory.published ∨
      r.directory.peers.length ≤ n ∧ n < (r.staged queried).peers.length := by
  by_cases hconfirms : r.confirms queried = true
  · rw [decision_of_confirms hconfirms] at h
    exact Or.inl h
  · rw [decision_of_not_confirms hknown hconfirms] at h
    rw [staged_of_not_confirms hknown hconfirms]
    rcases mem_nextOf h with hmem | hfree
    · exact Or.inl hmem
    · exact Or.inr ⟨hfree, lists_nextOf.known n h⟩

theorem Told.published_or_made (hrooted : r.Rooted) {before : List Event}
    {queried : List Address} (htold : Told r history id before queried)
    (hn : n ∈ ((r.after before).decision queried).list (r.after before).directory.published) :
    n ∈ (r.after before).directory.published ∨ Made r history id n := by
  rcases mem_list_decision_cases (hrooted.run before).known hn with hmem | ⟨hfree, hmade⟩
  · exact Or.inl hmem
  · right
    rcases htold with ⟨⟨later, rfl⟩, hs⟩
    refine ⟨before, .answered id (.ok queried), ⟨later, by simp⟩, rfl, hfree, ?_⟩
    unfold sizeAfter
    rw [after_concat]
    exact Nat.lt_of_lt_of_le hmade (grows_staged_step hs).length_le

/-- Only a run that has succeeded has its peers published. -/
theorem exists_made_of_wasPublished (hlocked : r.Locked) (hrooted : r.Rooted) (hnew : r.runs = [])
    (hempty : r.directory.published = []) (h : WasPublished (r.trace history) n) :
    exists id, Made r history id n ∧ (r.after history).Succeeded id := by
  induction history using List.reverseRecOn with
  | nil =>
      rcases h with ⟨next, hnext, _⟩
      cases hnext
  | append_singleton history event ih =>
      have hbefore : WasPublished (r.trace history) n ->
          exists id, Made r (history ++ [event]) id n ∧
            (r.after (history ++ [event])).Succeeded id := by
        intro hwas
        rcases ih hwas with ⟨id, hmade, hsucceeded⟩
        exact ⟨id, hmade.append [event], hsucceeded.append hlocked [event]⟩
      rcases h with ⟨next, hnext, hn⟩
      rw [trace_append] at hnext
      rcases List.mem_append.mp hnext with hold | hnow
      · exact hbefore ⟨next, hold, hn⟩
      · have hstep : Effect.published next ∈ ((r.after history).step event).2 := by
          simpa [trace] using hnow
        cases howner : (r.after history).owner? event with
        | none => exact absurd hstep ((aside_step howner).quiet next)
        | some id =>
            rcases (turn_step howner).exists_finishes hstep with
              ⟨current, created, kept, hfinishes⟩
            rcases hfinishes.exists_told hlocked hrooted (stage?_eq_none_of_nil hnew id) with
              ⟨before, queried, htold, _, hplan, middle, hsplit⟩
            have hlist : n ∈ ((r.after before).decision queried).list
                (r.after before).directory.published := hplan ▸ hn
            rcases htold.published_or_made hrooted hlist with hmem | hmade
            · have hwas := (wasPublished_of_mem hrooted hempty hmem).append
                ((r.after before).trace middle)
              rw [← trace_append, ← hsplit] at hwas
              exact hbefore hwas
            · refine ⟨id, hmade, ?_⟩
              rw [after_concat]
              exact hfinishes.succeeded.right

/-!
## One step of the run

An answer of a connector takes a peer without a channel to one with it, or changes nothing. Before
its end a run keeps the peers that are there, except that it connects those of its own list.
-/

theorem finishConnect_cases (p : Peer) (answer : Except ClusterError Channel) :
    (p.finishConnect answer).1 = p ∨ p.link = .created ∧
      exists channel, (p.finishConnect answer).1 = { p with link := .connected channel } := by
  cases answer with
  | error e => exact Or.inl rfl
  | ok channel =>
      unfold Peer.finishConnect
      cases hlink : p.link with
      | created => exact Or.inr ⟨rfl, channel, rfl⟩
      | here => exact Or.inl rfl
      | connected _ => exact Or.inl rfl
      | closed => exact Or.inl rfl

theorem Opening.peers {event : Event} {current : List PeerId} {plan : Plan} {d : Directory}
    {effects : List Effect} (h : Opening (r.after history) id event current plan d effects)
    (hrooted : r.Rooted) (hempty : r.directory.published = [])
    (htally : Tally r history id ((r.after history).stage? id)) {p : Peer}
    (hp : (r.after history).directory.peer? n = some p) :
    exists q, d.peer? n = some q ∧ (q = p ∨
      (WasPublished (r.trace history) n ∨ Made r history id n) ∧ p.link = .created ∧
        exists channel, q = { p with link := .connected channel }) := by
  cases h with
  | told queried _ =>
      refine ⟨p, ?_, Or.inl rfl⟩
      by_cases hconfirms : (r.after history).confirms queried = true
      · rw [staged_of_confirms hconfirms]
        exact hp
      · rw [staged_of_not_confirms (hrooted.run history).known hconfirms]
        exact (List.getElem?_append_left (Directory.lt_length_of_peer? hp)).trans hp
  | @heard attempt answer peer _ _ attempts hs hpeer =>
      by_cases hid : peer = n
      · subst hid
        refine ⟨(p.finishConnect answer).1, ?_, ?_⟩
        · exact (Directory.peer?_modify_same _ _ _).trans (congrArg (Option.map _) hp)
        · rcases finishConnect_cases p answer with hsame | ⟨hcreated, hconnected⟩
          · exact Or.inl hsame
          · rw [hs] at htally
            rcases htally with ⟨_, hlist, before, queried, htold, rfl, rfl⟩
            refine Or.inr ⟨?_, hcreated, hconnected⟩
            rcases htold.published_or_made hrooted (hlist peer hpeer) with hmem | hmade
            · rcases htold.left with ⟨later, rfl⟩
              have hwas := wasPublished_of_mem hrooted hempty hmem
              rw [trace_append]
              exact Or.inl (hwas.append _)
            · exact Or.inr hmade
      · exact ⟨p, (Directory.peer?_modify_ne _ _ hid).trans hp, Or.inl rfl⟩

theorem Spares.of_directory_eq {r' : Reconciler} {reached : PeerId -> Prop}
    (hdirectory : r'.directory = r.directory) (hself : r'.selfAddress = r.selfAddress) :
    Spares r r' reached := by
  refine ⟨?_, ?_, hself, ?_⟩
  · rw [hdirectory]
  · rw [hdirectory]
  · intro n p hp
    rw [hdirectory]
    exact ⟨p, hp, Or.inl rfl⟩

/-- A step of a run that is not the last one of a successful run commits nothing. -/
theorem Turn.spares {event : Event} {r' : Reconciler} {effects : List Effect}
    (h : Turn (r.after history) id event r' effects) (hrooted : r.Rooted)
    (hempty : r.directory.published = [])
    (htally : Tally r history id ((r.after history).stage? id)) (hnot : ¬r'.Succeeded id) :
    Spares (r.after history) r' fun n =>
      WasPublished (r.trace history) n ∨ Made r history id n := by
  have hknown := (hrooted.run history).known
  have hself := h.selfAddress_eq
  cases h with
  | rests _ => exact Spares.of_directory_eq rfl hself
  | enters kind _ => exact Spares.of_directory_eq (idle_begin _ kind).directory hself
  | starts rest _ _ => exact Spares.of_directory_eq (idle_starts _ id rest).directory hself
  | fails e _ => exact Spares.of_directory_eq (directory_conclude _ id _) hself
  | goes d hopening _ _ =>
      refine ⟨hopening.published_eq hknown, hopening.edition_eq hknown, hself, ?_⟩
      intro n p hp
      exact hopening.peers hrooted hempty htally hp
  | ends d attempts hopening =>
      rcases hopening.not_over with ⟨s, hs, _⟩
      have hs' : { r.after history with directory := d }.stage? id = some s := hs
      exact absurd (succeeded_complete hs' _ _ attempts) hnot
  | leaves _ _ => exact Spares.of_directory_eq (idle_abandon _ id).directory hself

/-!
## What a fruitless run leaves behind

The lock is not taken over in the step in which its run ends.
-/

/-- What is left of a run of this history that has failed or has been dropped. -/
structure CommitsNothing (r : Reconciler) (history : List Event) (id : RunId) : Prop where
  /-- Each of its steps leaves all as it is but for the links of peers that it connects: remotes
  that have been published, and peers of its own. -/
  steps : forall before event later, history = before ++ event :: later ->
    (r.after before).owner? event = some id ->
    Spares (r.after before) (r.after (before ++ [event])) fun n =>
      WasPublished (r.trace before) n ∨ Made r before id n
  /-- Its own peers are never published. -/
  unpublished : forall n, Made r history id n ->
    forall future, ¬WasPublished (r.trace (history ++ future)) n
  /-- It publishes no list and closes no peer. -/
  commits : forall e, e ∈ r.share id history -> e.isCommit = false
  /-- All that a serial run has done whose query has failed. -/
  failed : forall e, (r.after history).stage? id = some (.finished (.error e)) ->
    (r.after history).kindOf id = RunKind.serial ->
    r.share id history = [.query id,
      .signal (.failure ("Failed to refresh cluster topology: " ++ e.message)),
      .health (.unhealthy e.message)]
  /-- A run that was dropped has not reported. -/
  dropped : (r.after history).stage? id = some .abandoned ->
    forall report, Effect.health report ∉ r.share id history
  /-- The lock is free after the step in which a serial run that used it has come to its end. -/
  freed : forall before event later s, history = before ++ event :: later ->
    (r.after before).kindOf id = RunKind.serial -> (r.after before).stage? id = some s ->
    s.IsActive -> (r.after (before ++ [event])).isOver id = true ->
    (r.after (before ++ [event])).holder = none
  /-- It neither has the lock nor waits for it. -/
  released : (r.after history).holder ≠ some id ∧ id ∉ (r.after history).queue
  /-- While no other run succeeds, one and the same list is published. -/
  list : forall past later, history = past ++ later -> NoneSucceeds r past later ->
    (r.after history).directory.published = (r.after past).directory.published ∧
      (r.after history).directory.edition = (r.after past).directory.edition
  /-- If it has been alone since the lock was free, the lock is free again. -/
  free : forall past later, history = past ++ later -> (r.after past).Solo id later ->
    (r.after past).holder = none -> (r.after past).queue = [] ->
    (r.after history).holder = none ∧ (r.after history).queue = []
  /-- While the lock is free, a run that begins queries and comes to its end, however it is
  answered. -/
  ends : forall kind answer (connector : Nat -> Except ClusterError Channel) next,
    (r.after history).holder = none -> (r.after history).queue = [] ->
    (r.after history).runs.length = next ->
    (r.after (history ++ [.begun kind, .granted])).stage? next = some .querying ∧
      exists later result,
        (forall event, event ∈ later -> exists k, event = .replied next k (connector k)) ∧
          (r.after (history ++ [.begun kind, .granted] ++ .answered next answer :: later)).stage?
            next = some (.finished result)
  /-- If it has been alone since the past, a run that begins now is as it would have been in its
  place. -/
  alone : forall past later kind, history = past ++ later -> (r.after past).Solo id later ->
    SameNext r past (history ++ [.begun kind, .granted]) (past ++ [.begun kind, .granted])
  /-- The next run is as it would be after a history without this one. -/
  next : forall past other, Parallel r past history other ->
    (r.after other).selfAddress = (r.after history).selfAddress ->
    Twins (r.sizeAfter past) (r.after history).directory (r.after other).directory
        (r.after history).directory.published (r.after other).directory.published ∧
      SameNext r past history other

theorem Fruitless.share (h : (r.after history).Fruitless id)
    (htally : Tally r history id ((r.after history).stage? id)) :
    forall e, e ∈ r.share id history -> e.isCommit = false := by
  have hfilter : (r.share id history).filter Effect.isCommit = [] := by
    rcases h with hs | ⟨e, hs⟩
    · rw [hs] at htally
      exact filter_isCommit_of_tentative htally
    · rw [hs] at htally
      rw [htally]
      exact filter_isCommit_failed id e _
  intro e he
  have hnot := List.filter_eq_nil_iff.mp hfilter e he
  exact Bool.not_eq_true _ ▸ hnot

theorem Fruitless.released (h : r.Fruitless id) (hlocked : r.Locked) (hheld : r.Held) :
    r.holder ≠ some id ∧ id ∉ r.queue := by
  rcases h.exists_over with ⟨s, hs, hover⟩
  exact released_of_isOver hlocked hheld hs hover

theorem Fruitless.free (h : r.Fruitless id) (hlocked : r.Locked) (hheld : r.Held)
    (hreserved : r.Reserved id) : r.holder = none ∧ r.queue = [] := by
  rcases h.released hlocked hheld with ⟨hholder, hqueue⟩
  constructor
  · cases hother : r.holder with
    | none => rfl
    | some other =>
        cases hreserved.holds other hother
        exact absurd hother hholder
  · apply List.eq_nil_iff_forall_not_mem.mpr
    intro other hother
    exact hqueue (hreserved.waits other hother ▸ hother)

theorem Held.holder_eq_none {event : Event} {s : RunStage} (hheld : r.Held)
    (hlocked : r.Locked) (hkind : r.kindOf id = RunKind.serial) (hs : r.stage? id = some s)
    (hactive : s.IsActive) (hover : (r.step event).1.isOver id = true) :
    (r.step event).1.holder = none := by
  -- Its stage has changed, so the step was one of its own.
  have howner : r.owner? event = some id := by
    by_contra hne
    rw [isOver_eq ((stage?_step_of_owner?_ne hne).trans hs)] at hover
    cases (isOver_of_isActive hactive).symm.trans hover
  cases hholder : (r.step event).1.holder with
  | none => rfl
  | some other =>
      rcases (hheld.step hlocked event).holds other hholder with ⟨hserial, t, ht, htactive⟩
      by_cases hid : id = other
      · subst hid
        rw [isOver_eq ht] at hover
        cases (isOver_of_isActive htactive).symm.trans hover
      · rw [(turn_step howner).stage?_eq hid] at ht
        rw [kindOf_step (lt_kinds_of_stage? ht)] at hserial
        have hself := hlocked.single id s hs hactive hkind
        have hother := hlocked.single other t ht htactive hserial
        exact absurd (Option.some.inj (hself.symm.trans hother)) hid

/-- Whatever else happens, a run that fails or is dropped commits nothing. -/
theorem commitsNothing_of_fruitless (internalAddress : Option Address) (check : HealthCheck)
    {history : List Event} {id : RunId}
    (h : ((create internalAddress check).after history).Fruitless id) :
    CommitsNothing (create internalAddress check) history id := by
  have hlocked := locked_create internalAddress check
  have hheld := held_create internalAddress check
  have hrooted := rooted_create internalAddress check
  have hlisted := listed_create internalAddress check
  have htally := @tally_after (create internalAddress check) id hlocked hrooted rfl
  constructor
  · rintro before event later rfl howner
    have hnot : ¬((create internalAddress check).after (before ++ [event])).Succeeded id := by
      intro hsucceeded
      have hend := hsucceeded.append hlocked later
      rw [← List.append_cons] at hend
      exact h.not_succeeded hend
    rw [after_concat] at hnot ⊢
    exact (turn_step howner).spares hrooted rfl (htally before) hnot
  · intro n hmade future hwas
    rcases exists_made_of_wasPublished hlocked hrooted rfl rfl hwas with ⟨other, hmade', hsucceeded⟩
    have hid := (hmade.append future).unique hrooted hmade'
    subst hid
    exact (h.append hlocked future).not_succeeded hsucceeded
  · exact h.share (htally history)
  · intro e hs hkind
    have hshare := htally history
    rw [hs] at hshare
    exact hshare.trans (by rw [hkind]; rfl)
  · intro hs report hreport
    have htentative := htally history
    rw [hs] at htentative
    exact htentative _ hreport
  · rintro before event later s rfl hkind hs hactive hover
    rw [after_concat] at hover ⊢
    exact (hheld.run hlocked before).holder_eq_none (hlocked.run before) hkind hs hactive hover
  · exact h.released (hlocked.run history) (hheld.run hlocked history)
  · rintro past later rfl hnone
    exact hnone.same_list hlocked hrooted
  · rintro past later rfl hsolo hfree hempty
    have hreserved : ((create internalAddress check).after past).Reserved id := by
      constructor
      · intro other hother
        cases hfree.symm.trans hother
      · intro other hother
        rw [hempty] at hother
        cases hother
    exact h.free (hlocked.run _) (hheld.run hlocked _)
      (after_append _ past later ▸ hsolo.reserved hreserved)
  · rintro kind answer connector next hfree hempty rfl
    have hs := stage?_of_free hfree hempty kind
    rw [← after_append] at hs
    rcases exists_end (hrooted.run _) hs answer connector with ⟨later, result, hlater, hend⟩
    exact ⟨hs, later, result, hlater, after_append _ _ _ ▸ hend⟩
  · rintro past later kind rfl hsolo
    have hnone := hsolo.noneSucceeds h.not_succeeded
    have hparallel := (hnone.starts kind).parallel hlocked ((noneSucceeds_nil _ past).starts kind)
    rw [← List.append_assoc, List.nil_append] at hparallel
    apply hparallel.sameNext hlocked hrooted rfl hlisted
    rw [after_append, selfAddress_starts, after_append, selfAddress_starts, after_append]
    exact hsolo.selfAddress_eq.symm
  · intro past other hparallel hself
    exact ⟨hparallel.twins hlocked hrooted rfl hlisted,
      hparallel.sameNext hlocked hrooted rfl hlisted hself⟩

end Run

/-!
## A run that is dropped at its connect
-/

def RunStage.hasSucceeded : RunStage -> Bool
  | .finished (.ok _) => true
  | _ => false

theorem succeeded_iff (r : Reconciler) (id : RunId) :
    (r.stage? id).any RunStage.hasSucceeded = true <-> r.Succeeded id := by
  unfold Succeeded
  cases r.stage? id with
  | none => simp
  | some s =>
      rcases s with _ | _ | _ | ⟨e | outcome⟩ | _ <;> simp [RunStage.hasSucceeded]

instance (r : Reconciler) (id : RunId) : Decidable (r.Succeeded id) :=
  decidable_of_iff _ (succeeded_iff r id)

def founding : List Event :=
  [.begun .serial, .granted, .answered 0 (.ok [memberA]),
    .replied 0 0 (.error (.config "unreachable"))]

/-- A run is told that another member has taken its place, and is dropped at its connect. -/
def interruption : List Event :=
  [.begun .serial, .granted, .answered 1 (.ok [memberB]), .dropped 1]

theorem commitsNothing_of_interruption :
    ((create none (NodeHealth.check false)).after (founding ++ interruption)).Fruitless 1 ∧
    CommitsNothing (create none (NodeHealth.check false)) (founding ++ interruption) 1 ∧
    ((create none (NodeHealth.check false)).after founding).Solo 1 interruption ∧
    ((create none (NodeHealth.check false)).after founding).holder = none ∧
    ((create none (NodeHealth.check false)).after founding).queue = [] := by
  have hfruitless :
      ((create none (NodeHealth.check false)).after (founding ++ interruption)).Fruitless 1 := by
    apply fruitless_of_isOver
    · decide +kernel
    · decide +kernel
    · decide +kernel
  have hsolo : ((create none (NodeHealth.check false)).after founding).Solo 1 interruption := by
    refine ⟨?_, ?_, ?_, ?_, True.intro⟩
    · decide +kernel
    · decide +kernel
    · decide +kernel
    · decide +kernel
  refine ⟨hfruitless, commitsNothing_of_fruitless none (NodeHealth.check false) hfruitless,
    hsolo, ?_, ?_⟩
  · decide +kernel
  · decide +kernel

end Reconciler
end ClusterNode
