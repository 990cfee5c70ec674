import ClusterNode.Proofs.Reconciler.Progress
import ClusterNode.Proofs.Reconciler.Record
import Mathlib.Data.List.Induction

/-!
# The share of a run

The share of a run in the effects of a history is what the steps of the run itself do. The stage of
a run tells what its share is: nothing while it waits, its query alone until the answer is there,
and no list and no close before it comes to its end. What it does at its end was decided when it was
told of the members.
-/

namespace ClusterNode

/-- Effects of a run that has not come to its end: no list, no close and no report. -/
def Effect.IsTentative : Effect -> Prop
  | health _ => False
  | published _ => False
  | closed _ => False
  | _ => True

def Effect.isCommit : Effect -> Bool
  | published _ => true
  | closed _ => true
  | _ => false

namespace Reconciler

/-- The effects of the steps that a run owns. -/
def share (r : Reconciler) (id : RunId) : List Event -> List Effect
  | [] => []
  | event :: rest =>
      (if r.owner? event = some id then (r.step event).2 else []) ++
        share (r.step event).1 id rest

theorem share_append (r : Reconciler) (id : RunId) (a b : List Event) :
    r.share id (a ++ b) = r.share id a ++ (r.after a).share id b := by
  induction a generalizing r with
  | nil => rfl
  | cons event rest ih =>
      show _ ++ (r.step event).1.share id (rest ++ b) = _
      rw [ih, ← List.append_assoc]
      rfl

theorem share_concat_of_owner? {r : Reconciler} {id : RunId} {history : List Event}
    {event : Event} (h : (r.after history).owner? event = some id) :
    r.share id (history ++ [event]) = r.share id history ++ ((r.after history).step event).2 := by
  rw [share_append, share, if_pos h, share, List.append_nil]

theorem share_concat_of_owner?_ne {r : Reconciler} {id : RunId} {history : List Event}
    {event : Event} (h : (r.after history).owner? event ≠ some id) :
    r.share id (history ++ [event]) = r.share id history := by
  rw [share_append, share, if_neg h, share, List.append_nil, List.append_nil]

theorem share_of_isOver {r : Reconciler} (hlocked : r.Locked) {id : RunId} {s : RunStage}
    (hs : r.stage? id = some s) (hover : s.isOver = true) (history : List Event) :
    r.share id history = [] := by
  induction history generalizing r with
  | nil => rfl
  | cons event rest ih =>
      have hrest := ih (hlocked.step event) (stage?_step_of_isOver hlocked hs hover event)
      rw [share, hrest, List.append_nil]
      split
      · rename_i howner
        exact ((turn_step howner).eq_of_isOver hlocked hs hover).right
      · rfl

/-!
## What a run has been told

Once its query is answered a run never queries again, so it is told only once.
-/

/-- The query of the run got this answer when the history had come so far. -/
def Answered (r : Reconciler) (history : List Event) (id : RunId) (before : List Event)
    (answer : Except ClusterError (List Address)) : Prop :=
  (exists later, history = before ++ .answered id answer :: later) ∧
    (r.after before).stage? id = some .querying

/-- The query of the run was answered with these addresses when the history had come so far. -/
def Told (r : Reconciler) (history : List Event) (id : RunId) (before : List Event)
    (queried : List Address) : Prop :=
  (exists later, history = before ++ .answered id (.ok queried) :: later) ∧
    (r.after before).stage? id = some .querying

theorem Answered.append {r : Reconciler} {history : List Event} {id : RunId}
    {before : List Event} {answer : Except ClusterError (List Address)}
    (h : Answered r history id before answer) (more : List Event) :
    Answered r (history ++ more) id before answer := by
  rcases h with ⟨⟨later, rfl⟩, hs⟩
  refine ⟨⟨later ++ more, ?_⟩, hs⟩
  rw [List.append_assoc]
  rfl

theorem Told.append {r : Reconciler} {history : List Event} {id : RunId} {before : List Event}
    {queried : List Address} (h : Told r history id before queried) (more : List Event) :
    Told r (history ++ more) id before queried :=
  Answered.append h more

theorem stage?_ne_querying_of_answered {r : Reconciler} (hlocked : r.Locked) {id : RunId}
    (hs : r.stage? id = some .querying) (answer : Except ClusterError (List Address))
    (later : List Event) :
    (r.after (.answered id answer :: later)).stage? id ≠ some .querying := by
  intro hagain
  have hlocked' := hlocked.step (.answered id answer)
  cases answer with
  | error e =>
      have hover : (r.step (.answered id (.error e))).1.stage? id = some (.finished (.error e)) :=
        stage?_answer_error hs e
      cases (stage?_after_of_isOver hlocked' hover rfl later).symm.trans hagain
  | ok queried =>
      rcases beyondQuery_told hs queried with ⟨s, hstage, hbeyond⟩
      rcases beyondQuery_after hlocked' hstage hbeyond later with ⟨t, ht, hbeyond'⟩
      cases ht.symm.trans hagain
      exact hbeyond'

theorem Answered.unique {r : Reconciler} (hlocked : r.Locked) {history : List Event} {id : RunId}
    {before₁ before₂ : List Event} {answer₁ answer₂ : Except ClusterError (List Address)}
    (h₁ : Answered r history id before₁ answer₁) (h₂ : Answered r history id before₂ answer₂) :
    before₁ = before₂ ∧ answer₁ = answer₂ := by
  -- The stages forbid that one answer comes after the other.
  have hlater : forall (before : List Event) (answer : Except ClusterError (List Address))
      (middle : List Event), (r.after before).stage? id = some .querying ->
        (r.after (before ++ .answered id answer :: middle)).stage? id ≠ some .querying := by
    intro before answer middle hs
    rw [after_append]
    exact stage?_ne_querying_of_answered (hlocked.run before) hs answer middle
  rcases h₁ with ⟨⟨later₁, hsplit₁⟩, hs₁⟩
  rcases h₂ with ⟨⟨later₂, hsplit₂⟩, hs₂⟩
  rw [hsplit₁] at hsplit₂
  rcases List.append_eq_append_iff.mp hsplit₂ with
    ⟨middle, hbefore, hrest⟩ | ⟨middle, hbefore, hrest⟩
  · cases middle with
    | nil =>
        cases hrest
        exact ⟨by simpa using hbefore.symm, rfl⟩
    | cons event rest =>
        cases hrest
        rw [hbefore] at hs₂
        exact absurd hs₂ (hlater before₁ answer₁ rest hs₁)
  · cases middle with
    | nil =>
        cases hrest
        exact ⟨by simpa using hbefore, rfl⟩
    | cons event rest =>
        cases hrest
        rw [hbefore] at hs₁
        exact absurd hs₁ (hlater before₂ answer₂ rest hs₂)

theorem Told.unique {r : Reconciler} (hlocked : r.Locked) {history : List Event} {id : RunId}
    {before₁ before₂ : List Event} {queried₁ queried₂ : List Address}
    (h₁ : Told r history id before₁ queried₁) (h₂ : Told r history id before₂ queried₂) :
    before₁ = before₂ ∧ queried₁ = queried₂ := by
  rcases Answered.unique hlocked h₁ h₂ with ⟨hbefore, hanswer⟩
  exact ⟨hbefore, Except.ok.inj hanswer⟩

/-!
## Tentative effects and commits
-/

theorem tentative_query (id : RunId) : forall e, e ∈ [Effect.query id] -> e.IsTentative := by
  intro e he
  rw [List.mem_singleton.mp he]
  exact True.intro

theorem tentative_asks (d : Directory) (id : RunId) (peers : List PeerId) :
    forall e, e ∈ asks d id peers -> e.IsTentative := by
  intro e he
  rcases exists_of_mem_asks he with ⟨_, _, _, _, _, rfl⟩
  exact True.intro

theorem Opening.tentative {r : Reconciler} {id : RunId} {event : Event} {current : List PeerId}
    {plan : Plan} {d : Directory} {effects : List Effect}
    (h : Opening r id event current plan d effects) :
    forall e, e ∈ effects -> e.IsTentative := by
  intro e he
  cases h with
  | told queried _ =>
      unfold prelude sizeOf sizeGauge at he
      split at he
      · rw [List.mem_singleton.mp he]
        exact True.intro
      · rcases List.mem_cons.mp he with rfl | he
        · exact True.intro
        · rw [List.mem_singleton.mp he]
          exact True.intro
  | heard _ _ _ _ =>
      rw [List.mem_singleton.mp he]
      exact True.intro

theorem filter_isCommit_of_tentative {effects : List Effect}
    (h : forall e, e ∈ effects -> e.IsTentative) : effects.filter Effect.isCommit = [] := by
  rw [List.filter_eq_nil_iff]
  intro e he
  have htentative := h e he
  cases e with
  | published next => exact htentative.elim
  | closed peer => exact htentative.elim
  | _ => simp [Effect.isCommit]

theorem filter_isCommit_of_isNotice {effects : List Effect}
    (h : forall e, e ∈ effects -> e.IsNotice) : effects.filter Effect.isCommit = [] := by
  rw [List.filter_eq_nil_iff]
  intro e he
  have hnotice := h e he
  cases e with
  | published next => exact hnotice.elim
  | closed peer => exact hnotice.elim
  | _ => simp [Effect.isCommit]

theorem isCommit_of_mem_commits {d : Directory} {current : List PeerId} {plan : Plan} {e : Effect}
    (h : e ∈ plan.commits d current) : e.isCommit = true := by
  cases plan with
  | keep => cases h
  | replace next created kept =>
      rcases List.mem_cons.mp h with rfl | hclosed
      · rfl
      · rcases List.mem_map.mp hclosed with ⟨peer, _, rfl⟩
        rfl

theorem filter_isCommit_commits (d : Directory) (current : List PeerId) (plan : Plan) :
    (plan.commits d current).filter Effect.isCommit = plan.commits d current := by
  rw [List.filter_eq_self]
  intro e he
  exact isCommit_of_mem_commits he

theorem filter_isCommit_complete (r : Reconciler) (id : RunId) (current : List PeerId)
    (plan : Plan) (attempts : List Attempt) :
    (r.complete id current plan attempts).2.filter Effect.isCommit =
      plan.commits r.directory current := by
  rw [complete_eq, List.filter_append, List.filter_append,
    filter_isCommit_of_isNotice (isNotice_warnings _ _), filter_isCommit_commits,
    filter_isCommit_of_isNotice (isNotice_succeed _ _ _), List.nil_append, List.append_nil]

def failure (e : ClusterError) : RunKind -> List Effect
  | .bare => []
  | .serial =>
      [.signal (.failure ("Failed to refresh cluster topology: " ++ e.message)),
        .health (.unhealthy e.message)]

theorem fail_snd (r : Reconciler) (id : RunId) (e : ClusterError) :
    (r.fail id e).2 = failure e (r.kindOf id) := by
  unfold fail
  cases r.kindOf id with
  | bare => rfl
  | serial => rfl

theorem filter_isCommit_failed (id : RunId) (e : ClusterError) (kind : RunKind) :
    (Effect.query id :: failure e kind).filter Effect.isCommit = [] := by
  cases kind with
  | bare => rfl
  | serial => rfl

/-!
## The remotes that leave
-/

theorem leaving_congr {d d' : Directory} (hgrows : d.Grows d') {current : List PeerId}
    (hknown : forall id, id ∈ current -> id < d.peers.length) (next : List PeerId) :
    leaving d' current next = leaving d current next := by
  apply List.filter_congr
  intro id hid
  exact hgrows.isRemote_eq (hknown id (List.mem_of_mem_filter hid))

theorem outcome_congr {d d' : Directory} (hgrows : d.Grows d') {current : List PeerId}
    (hknown : forall id, id ∈ current -> id < d.peers.length) (plan : Plan) :
    plan.outcome d' current = plan.outcome d current := by
  cases plan with
  | keep => rfl
  | replace next created kept => rw [Plan.outcome, Plan.outcome, leaving_congr hgrows hknown]

theorem commits_congr {d d' : Directory} (hgrows : d.Grows d') {current : List PeerId}
    (hknown : forall id, id ∈ current -> id < d.peers.length) (plan : Plan) :
    plan.commits d' current = plan.commits d current := by
  cases plan with
  | keep => rfl
  | replace next created kept => rw [Plan.commits, Plan.commits, leaving_congr hgrows hknown]

/-!
## The tally of a run

Steps of others leave the tally of a run alone. In a step of its own a run goes on with its connects
and has done nothing definite yet, or it comes to its end and carries out what it has decided when
it was told. Since then peers have been added and links have gone on, which changes nothing about
the remotes that leave.
-/

def commitsOf (r : Reconciler) (queried : List Address) : List Effect :=
  (r.decision queried).commits r.directory r.directory.published

def outcomeOf (r : Reconciler) (queried : List Address) : RunOutcome :=
  (r.decision queried).outcome r.directory r.directory.published

/-- What the stage of a run says about its share and about what it has been told. -/
def Tally (r : Reconciler) (history : List Event) (id : RunId) : Option RunStage -> Prop
  | none => r.share id history = []
  | some .waiting => r.share id history = []
  | some .querying => r.share id history = [.query id]
  | some (.connecting current plan attempts) =>
      (forall e, e ∈ r.share id history -> e.IsTentative) ∧
        (forall peer, peer ∈ attempts.map Attempt.peer -> peer ∈ plan.list current) ∧
        exists before queried, Told r history id before queried ∧
          current = (r.after before).directory.published ∧
          plan = (r.after before).decision queried
  | some (.finished (.ok outcome)) =>
      exists before queried, Told r history id before queried ∧
        outcome = (r.after before).outcomeOf queried ∧
        (r.share id history).filter Effect.isCommit = (r.after before).commitsOf queried
  | some (.finished (.error e)) =>
      r.share id history = .query id :: failure e ((r.after history).kindOf id)
  | some .abandoned => forall e, e ∈ r.share id history -> e.IsTentative

theorem Tally.append {r : Reconciler} {history more : List Event} {id : RunId}
    {stage : Option RunStage} (h : Tally r history id stage)
    (hshare : r.share id (history ++ more) = r.share id history)
    (hkind : forall s, stage = some s ->
      (r.after (history ++ more)).kindOf id = (r.after history).kindOf id) :
    Tally r (history ++ more) id stage := by
  cases stage with
  | none => exact hshare.trans h
  | some s =>
      cases s with
      | waiting => exact hshare.trans h
      | querying => exact hshare.trans h
      | connecting current plan attempts =>
          rcases h with ⟨htentative, hpeers, before, queried, htold, hcurrent, hplan⟩
          refine ⟨?_, hpeers, before, queried, htold.append more, hcurrent, hplan⟩
          rw [hshare]
          exact htentative
      | finished result =>
          cases result with
          | error e =>
              unfold Tally
              rw [hshare, hkind _ rfl]
              exact h
          | ok outcome =>
              rcases h with ⟨before, queried, htold, houtcome, hcommits⟩
              refine ⟨before, queried, htold.append more, houtcome, ?_⟩
              rw [hshare]
              exact hcommits
      | abandoned =>
          unfold Tally
          rw [hshare]
          exact h

theorem Tally.tentative {r : Reconciler} {history : List Event} {id : RunId} {s : RunStage}
    (h : Tally r history id (some s)) (hgoing : s.isOver = false) :
    forall e, e ∈ r.share id history -> e.IsTentative := by
  cases s with
  | waiting =>
      unfold Tally at h
      rw [h]
      simp
  | querying =>
      unfold Tally at h
      rw [h]
      exact tentative_query id
  | connecting current plan attempts => exact h.left
  | finished result => cases hgoing
  | abandoned => cases hgoing

section Run

variable {r : Reconciler} {history : List Event} {id : RunId} {event : Event}
  {current : List PeerId} {plan : Plan} {d : Directory} {effects : List Effect}

theorem Opening.exists_told (h : Opening (r.after history) id event current plan d effects)
    (htally : Tally r history id ((r.after history).stage? id)) :
    exists before queried, Told r (history ++ [event]) id before queried ∧
      current = (r.after before).directory.published ∧
      plan = (r.after before).decision queried ∧ exists middle, history = before ++ middle := by
  cases h with
  | told queried hs =>
      exact ⟨history, queried, ⟨⟨[], rfl⟩, hs⟩, rfl, rfl, [], (List.append_nil history).symm⟩
  | heard attempt answer hs _ =>
      rw [hs] at htally
      rcases htally with ⟨_, _, before, queried, htold, hcurrent, hplan⟩
      rcases htold with ⟨⟨later, hlater⟩, hquerying⟩
      have htold : Told r history id before queried := ⟨⟨later, hlater⟩, hquerying⟩
      exact ⟨before, queried, htold.append _, hcurrent, hplan, _, hlater⟩

theorem Opening.grows_told (h : Opening (r.after history) id event current plan d effects)
    (hrooted : r.Rooted) {before middle : List Event} (hsplit : history = before ++ middle) :
    (r.after before).directory.Grows d := by
  have hopening := h.grows (hrooted.run history).known
  have hbefore := grows_after (hrooted.run before) middle
  rw [← after_append, ← hsplit] at hbefore
  exact hbefore.trans hopening

theorem Opening.tally_connecting (h : Opening (r.after history) id event current plan d effects)
    (htally : Tally r history id ((r.after history).stage? id)) {attempts : List Attempt}
    {more : List Effect}
    (hpeers : forall peer, peer ∈ attempts.map Attempt.peer -> peer ∈ plan.list current ∨
      exists old, (r.after history).stage? id = some (.connecting current plan old) ∧
        peer ∈ old.map Attempt.peer)
    (hmore : forall e, e ∈ more -> e.IsTentative)
    (hshare : r.share id (history ++ [event]) = r.share id history ++ (effects ++ more)) :
    Tally r (history ++ [event]) id (some (.connecting current plan attempts)) := by
  rcases h.exists_told htally with ⟨before, queried, htold, hcurrent, hplan, _⟩
  rcases h.not_over with ⟨s, hs, hgoing⟩
  refine ⟨?_, ?_, before, queried, htold, hcurrent, hplan⟩
  · rw [hs] at htally
    have hold := htally.tentative hgoing
    rw [hshare]
    intro e he
    rcases List.mem_append.mp he with he | he
    · exact hold e he
    · rcases List.mem_append.mp he with he | he
      · exact h.tentative e he
      · exact hmore e he
  · intro peer hpeer
    rcases hpeers peer hpeer with hlisted | ⟨old, hold, hmem⟩
    · exact hlisted
    · rw [hold] at htally
      exact htally.right.left peer hmem

theorem Opening.tally_complete (h : Opening (r.after history) id event current plan d effects)
    (hrooted : r.Rooted) (htally : Tally r history id ((r.after history).stage? id))
    {attempts : List Attempt}
    (hshare : r.share id (history ++ [event]) = r.share id history ++ (effects ++
      ({ r.after history with directory := d }.complete id current plan attempts).2)) :
    Tally r (history ++ [event]) id (some (.finished (.ok (plan.outcome d current)))) := by
  rcases h.exists_told htally with
    ⟨before, queried, htold, hcurrent, hplan, middle, hsplit⟩
  rcases h.not_over with ⟨s, hs, hgoing⟩
  have hgrows := h.grows_told hrooted hsplit
  have hknown := (hrooted.run before).known
  rw [hs] at htally
  refine ⟨before, queried, htold, ?_, ?_⟩
  · rw [hplan, hcurrent]
    exact outcome_congr hgrows hknown _
  · rw [hshare, List.filter_append, List.filter_append,
      filter_isCommit_of_tentative (htally.tentative hgoing),
      filter_isCommit_of_tentative h.tentative, filter_isCommit_complete, hplan, hcurrent]
    exact commits_congr hgrows hknown _

theorem Turn.tally {r' : Reconciler} (hlocked : r.Locked) (hrooted : r.Rooted)
    (h : Turn (r.after history) id event r' effects)
    (hshare : r.share id (history ++ [event]) = r.share id history ++ effects)
    (hafter : r.after (history ++ [event]) = r')
    (htally : Tally r history id ((r.after history).stage? id)) :
    Tally r (history ++ [event]) id (r'.stage? id) := by
  cases h with
  | rests _ =>
      apply htally.append
      · rw [hshare, List.append_nil]
      · intro _ _
        rw [hafter]
  | enters kind hid =>
      have hnone : (r.after history).stage? id = none := by
        rw [← hid]
        simp [stage?]
      rw [hnone] at htally
      rw [stage?_begin, if_pos hid.symm]
      cases kind with
      | serial =>
          show r.share id _ = []
          rw [hshare, htally]
          rfl
      | bare =>
          show r.share id _ = _
          rw [hshare, htally, ← hid]
          rfl
  | starts rest _ hqueue =>
      have hwaiting := (hlocked.run history).queued id (hqueue ▸ List.mem_cons_self)
      rw [hwaiting] at htally
      have hstage : Reconciler.stage? { (r.after history).setStage id .querying with
          holder := some id, queue := rest } id = some .querying := stage?_setStage_self hwaiting _
      rw [hstage]
      show r.share id _ = _
      rw [hshare, htally]
      rfl
  | fails e hs =>
      rw [hs] at htally
      rw [stage?_conclude, stage?_setStage_self hs]
      show r.share id _ = _
      rw [hshare, htally, fail_snd, hafter, kindOf_conclude]
      rfl
  | goes d hopening hpeers hmore =>
      rcases hopening.not_over with ⟨s, hs, _⟩
      have hs' : { r.after history with directory := d }.stage? id = some s := hs
      rw [stage?_setStage_self hs']
      refine hopening.tally_connecting htally hpeers ?_ hshare
      intro e he
      rcases hmore with rfl | ⟨peers, rfl, _⟩
      · cases he
      · exact tentative_asks d id peers e he
  | ends d attempts hopening =>
      rcases hopening.not_over with ⟨s, hs, _⟩
      have hs' : { r.after history with directory := d }.stage? id = some s := hs
      rw [stage?_complete, stage?_setStage_self hs']
      exact hopening.tally_complete hrooted htally hshare
  | leaves hs hgoing =>
      rw [hs] at htally
      rw [stage?_abandon_self hs hgoing]
      show forall e, _
      rw [hshare, List.append_nil]
      exact htally.tentative hgoing

theorem stage?_eq_none_of_nil (hnew : r.runs = []) (id : RunId) : r.stage? id = none := by
  simp [stage?, hnew]

/-- At every stage the tally of a run is right. -/
theorem tally_after (hlocked : r.Locked) (hrooted : r.Rooted) (hnew : r.stage? id = none)
    (history : List Event) : Tally r history id ((r.after history).stage? id) := by
  induction history using List.reverseRecOn with
  | nil =>
      show Tally r [] id (r.stage? id)
      rw [hnew]
      rfl
  | append_singleton history event ih =>
      have hafter := after_concat r history event
      by_cases howner : (r.after history).owner? event = some id
      · have hturn := (turn_step howner).tally hlocked hrooted (share_concat_of_owner? howner)
          hafter ih
        rwa [← hafter] at hturn
      · have hstage : (r.after (history ++ [event])).stage? id = (r.after history).stage? id := by
          rw [hafter]
          exact stage?_step_of_owner?_ne howner
        rw [hstage]
        apply ih.append (share_concat_of_owner?_ne howner)
        intro s hs
        rw [hafter]
        exact kindOf_step (lt_kinds_of_stage? hs) event

/-!
## The moment of success

A run succeeds in the step in which it comes to its end, and then the list is as planned. No list is
published in any other step.
-/

theorem Turn.finishes_of_succeeded {r r' : Reconciler} (h : Turn r id event r' effects)
    (hnot : ¬r.Succeeded id) (hsucceeded : r'.Succeeded id) :
    exists current plan, Finishes r id event current plan r' effects := by
  rcases hsucceeded with ⟨outcome, hend⟩
  cases h with
  | rests _ => exact absurd ⟨outcome, hend⟩ hnot
  | enters kind hid =>
      rw [stage?_begin, if_pos hid.symm] at hend
      cases kind with
      | serial => cases hend
      | bare => cases hend
  | starts _ _ _ => cases eq_of_stage?_setStage_self hend
  | fails e _ =>
      rw [stage?_conclude] at hend
      cases eq_of_stage?_setStage_self hend
  | goes d _ _ _ => cases eq_of_stage?_setStage_self hend
  | ends d attempts hopening => exact ⟨_, _, d, _, attempts, hopening, rfl, rfl⟩
  | leaves hs hgoing =>
      rw [stage?_abandon_self hs hgoing] at hend
      cases hend

theorem Finishes.succeeded {r r' : Reconciler} (h : Finishes r id event current plan r' effects) :
    ¬r.Succeeded id ∧ r'.Succeeded id := by
  rcases h with ⟨d, opening, attempts, hopening, rfl, _⟩
  rcases hopening.not_over with ⟨s, hs, hgoing⟩
  have hs' : { r with directory := d }.stage? id = some s := hs
  refine ⟨?_, succeeded_complete hs' current plan attempts⟩
  intro ⟨outcome, hend⟩
  rw [hs] at hend
  cases hend
  cases hgoing

theorem Succeeded.append (h : (r.after history).Succeeded id) (hlocked : r.Locked)
    (more : List Event) : (r.after (history ++ more)).Succeeded id := by
  rcases h with ⟨outcome, hend⟩
  exact ⟨outcome, stage?_append_of_isOver hlocked hend rfl more⟩

/-- The run succeeds with this event. -/
def Succeeds (r : Reconciler) (history : List Event) (event : Event) (id : RunId) : Prop :=
  ¬(r.after history).Succeeded id ∧ (r.after (history ++ [event])).Succeeded id

theorem Succeeds.owner?_eq (h : Succeeds r history event id) :
    (r.after history).owner? event = some id := by
  rcases h with ⟨hnot, outcome, hend⟩
  by_contra howner
  rw [after_concat, stage?_step_of_owner?_ne howner] at hend
  exact hnot ⟨outcome, hend⟩

theorem Succeeds.exists_finishes (h : Succeeds r history event id) :
    exists current plan, Finishes (r.after history) id event current plan
      (r.after (history ++ [event])) ((r.after history).step event).2 := by
  rw [after_concat]
  apply (turn_step h.owner?_eq).finishes_of_succeeded h.left
  rw [← after_concat]
  exact h.right

/-- The list is as planned afterwards. -/
theorem Finishes.published_eq {r r' : Reconciler}
    (h : Finishes r id event current plan r' effects)
    (hknown : forall id, id ∈ r.directory.published -> id < r.directory.peers.length) :
    r'.directory.published = plan.list r.directory.published := by
  rcases h with ⟨d, opening, attempts, hopening, rfl, _⟩
  rw [complete_eq, directory_conclude]
  cases plan with
  | keep => exact hopening.published_eq hknown
  | replace next created kept => exact published_closeAll _ _

/-- What a run does at its end it has been told before. -/
theorem Finishes.exists_told {r' : Reconciler} (hlocked : r.Locked) (hrooted : r.Rooted)
    (hnew : r.stage? id = none)
    (h : Finishes (r.after history) id event current plan r' effects) :
    exists before queried, Told r (history ++ [event]) id before queried ∧
      current = (r.after before).directory.published ∧
      plan = (r.after before).decision queried ∧ exists middle, history = before ++ middle := by
  rcases h with ⟨d, opening, attempts, hopening, _, _⟩
  exact hopening.exists_told (tally_after hlocked hrooted hnew history)

theorem Succeeds.told (hlocked : r.Locked) (hrooted : r.Rooted) (hnew : r.stage? id = none)
    {rest : List Event} (h : Succeeds r history event id) {before : List Event}
    {queried : List Address} (htold : Told r (history ++ event :: rest) id before queried) :
    Told r (history ++ [event]) id before queried := by
  have hsplit : history ++ event :: rest = history ++ [event] ++ rest := by simp
  rcases h.exists_finishes with ⟨current, plan, hfinishes⟩
  rcases hfinishes.exists_told hlocked hrooted hnew with ⟨before', queried', htold', _⟩
  rcases (htold'.append rest).unique hlocked (hsplit ▸ htold) with ⟨rfl, rfl⟩
  exact htold'

theorem wasPublished_of_mem (hrooted : r.Rooted) (hempty : r.directory.published = [])
    {n : PeerId} (hn : n ∈ (r.after history).directory.published) :
    WasPublished (r.trace history) n := by
  rw [← replay_trace hrooted history] at hn
  rcases mem_or_wasPublished_of_replay hn with hmem | hwas
  · rw [hempty] at hmem
    cases hmem
  · exact hwas

theorem exists_finishes_of_not_quiet (h : ¬Quiet (r.step event).2) :
    exists id current next created kept, Effect.published next ∈ (r.step event).2 ∧
      Finishes r id event current (.replace next created kept) (r.step event).1
        (r.step event).2 := by
  rcases not_forall_not.mp h with ⟨next, hnext⟩
  cases howner : r.owner? event with
  | none => exact absurd hnext ((aside_step howner).quiet next)
  | some id =>
      rcases (turn_step howner).exists_finishes hnext with ⟨current, created, kept, hfinishes⟩
      exact ⟨id, current, next, created, kept, hnext, hfinishes⟩

/-- A step keeps the list, or a run succeeds with it. -/
theorem published_step_cases (hrooted : r.Rooted) (event : Event) :
    ((r.step event).1.directory.published = r.directory.published ∧
      (r.step event).1.directory.edition = r.directory.edition) ∨
      exists id current plan,
        Finishes r id event current plan (r.step event).1 (r.step event).2 := by
  by_cases hquiet : Quiet (r.step event).2
  · exact Or.inl (same_list_of_quiet hrooted.known hquiet)
  · rcases exists_finishes_of_not_quiet hquiet with ⟨id, current, _, _, _, _, hfinishes⟩
    exact Or.inr ⟨id, current, _, hfinishes⟩

/-- The run publishes this list at its end, and no list is published after it. -/
def LastPublished (r : Reconciler) (history : List Event) (id : RunId) (next : List PeerId) :
    Prop :=
  exists before event later, history = before ++ event :: later ∧ Succeeds r before event id ∧
    Effect.published next ∈ ((r.after before).step event).2 ∧
    Quiet ((r.after (before ++ [event])).trace later)

theorem LastPublished.concat {next : List PeerId} (h : LastPublished r history id next)
    (hquiet : Quiet ((r.after history).step event).2) :
    LastPublished r (history ++ [event]) id next := by
  rcases h with ⟨before, last, later, rfl, hsucceeds, hpublished, hlater⟩
  refine ⟨before, last, later ++ [event], ?_, hsucceeds, hpublished, ?_⟩
  · rw [List.append_assoc]
    rfl
  · rw [List.append_cons, after_append] at hquiet
    rw [trace_concat]
    exact hlater.append hquiet

theorem published_last (hrooted : r.Rooted) (history : List Event) :
    Quiet (r.trace history) ∧ (r.after history).directory.published = r.directory.published ∨
      exists id, LastPublished r history id (r.after history).directory.published := by
  induction history using List.reverseRecOn with
  | nil =>
      refine Or.inl ⟨?_, rfl⟩
      intro next hnext
      cases hnext
  | append_singleton history event ih =>
      have hknown := (hrooted.run history).known
      by_cases hquiet : Quiet ((r.after history).step event).2
      · have hsame := (same_list_of_quiet hknown hquiet).left
        rw [after_concat, hsame, trace_concat]
        rcases ih with ⟨hnone, hlist⟩ | ⟨id, hlast⟩
        · exact Or.inl ⟨hnone.append hquiet, hlist⟩
        · exact Or.inr ⟨id, hlast.concat hquiet⟩
      · rcases exists_finishes_of_not_quiet hquiet with
          ⟨id, current, next, created, kept, hnext, hfinishes⟩
        have hlist : ((r.after history).step event).1.directory.published = next :=
          hfinishes.published_eq hknown
        rcases hfinishes.succeeded with ⟨hnot, hsucceeded⟩
        rw [after_concat, hlist]
        refine Or.inr ⟨id, history, event, [], rfl, ⟨hnot, ?_⟩, hnext, ?_⟩
        · rw [after_concat]
          exact hsucceeded
        · intro other hother
          cases hother

end Run

end Reconciler
end ClusterNode
