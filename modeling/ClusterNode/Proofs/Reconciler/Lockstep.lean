import ClusterNode.Proofs.Reconciler.Attempts

/-!
# The rebuild of a list that is as it should be

A run that is told of the published peers might as well rebuild its list: it would take over each
peer, create and close nobody, and ask for the same peers. The two runs keep step with each other
up to their end, and then differ in their outcome and in the edition of the list.
-/

namespace ClusterNode

def Effect.isRenewal : Effect -> Bool
  | created _ => true
  | published _ => true
  | _ => false

/-- The second list is the first one with these renewals in it. -/
structure Effect.Renews (renewals effects effects' : List Effect) : Prop where
  renewals : effects'.filter isRenewal = renewals
  others : effects'.filter (fun e => !e.isRenewal) = effects

theorem Effect.Renews.append {renewals more effects effects' later later' : List Effect}
    (h : Renews renewals effects effects') (hlater : Renews more later later') :
    Renews (renewals ++ more) (effects ++ later) (effects' ++ later') := by
  constructor
  · rw [List.filter_append, h.renewals, hlater.renewals]
  · rw [List.filter_append, h.others, hlater.others]

theorem Effect.renews_nil {effects : List Effect}
    (h : forall e, e ∈ effects -> e.isRenewal = false) : Renews [] effects effects := by
  constructor
  · rw [List.filter_eq_nil_iff]
    intro e he
    simp [h e he]
  · rw [List.filter_eq_self]
    intro e he
    simp [h e he]

theorem Effect.isRenewal_of_isNotice {e : Effect} (h : e.IsNotice) : e.isRenewal = false := by
  cases e with
  | created peers => exact h.elim
  | published next => exact h.elim
  | _ => rfl

/-!
## A draft of the published list

Each address finds the peer that is listed for it, so the draft has these peers and no others, and
leaves out nobody.
-/

namespace Topology

variable {d : Directory} {current : List PeerId} {addresses : List Address}

theorem Lists.existing?_eq (h : Lists d current addresses) (hranked : Ranked addresses) :
    List.Forall₂ (fun n a => existing? d current a = some n) current addresses := by
  have hsub : forall {ids more}, Lists d ids more -> (forall n, n ∈ ids -> n ∈ current) ->
      List.Forall₂ (fun n a => existing? d current a = some n) ids more := by
    intro ids more hlists hmem
    induction hlists with
    | nil => exact List.Forall₂.nil
    | cons hhead _ ih =>
        rcases hhead with ⟨p, hp, hstands⟩
        refine List.Forall₂.cons ?_ (ih fun n hn => hmem n (List.mem_cons_of_mem _ hn))
        exact existing?_eq_some h hranked (hmem _ List.mem_cons_self) hp hstands
  exact hsub h fun n hn => hn

theorem draft_of_existing? {ids : List PeerId}
    (h : List.Forall₂ (fun n a => existing? d current a = some n) ids addresses)
    (fresh : PeerId) :
    newcomers d current addresses = [] ∧ stayers d current addresses = addresses ∧
      numbers d current fresh addresses = ids := by
  induction h with
  | nil => exact ⟨rfl, rfl, rfl⟩
  | cons hhead _ ih =>
      rcases ih with ⟨hnew, hstay, hnumbers⟩
      refine ⟨?_, ?_, ?_⟩
      · rw [newcomers, List.filter_cons, hhead]
        exact hnew
      · rw [stayers, List.filter_cons, hhead, if_pos Option.isSome_some]
        exact congrArg (List.cons _) hstay
      · rw [numbers, hhead]
        exact congrArg (List.cons _) hnumbers

theorem Lists.draft_eq (h : Lists d current addresses) (hranked : Ranked addresses) :
    draft d current addresses =
      { directory := d, next := current, created := 0, kept := current.length } := by
  rcases draft_of_existing? (h.existing?_eq hranked) d.peers.length with
    ⟨hnew, hstay, hnumbers⟩
  rw [Topology.draft_eq h.known, hnew, hstay, hnumbers, List.map_nil, List.append_nil,
    ← List.Forall₂.length_eq h]
  rfl

theorem superseded_self (ids : List PeerId) : superseded ids ids = [] := by
  rw [superseded, List.filter_eq_nil_iff]
  intro n hn
  simp [hn]

end Topology

namespace Reconciler

/-!
## The two paths
-/

def renewed (r : Reconciler) : Reconciler :=
  { r with directory := r.directory.publish r.directory.published }

def renewal (r : Reconciler) : Plan :=
  .replace r.directory.published 0 r.directory.published.length

/-- A run on the fast path, and the same run as a rebuild of the same list. Up to their end they
differ in their plans, and then in their outcomes and in the edition of the list. -/
inductive Beside (id : RunId) : Reconciler -> List Effect -> Reconciler -> List Effect -> Prop where
  | going {r : Reconciler} {attempts : List Attempt} {effects effects' : List Effect} :
      r.stage? id = some (.connecting r.directory.published .keep attempts) ->
      Effect.Renews [.created []] effects effects' ->
      Beside id r effects
        (r.setStage id (.connecting r.directory.published r.renewal attempts)) effects'
  | ended {r : Reconciler} {effects effects' : List Effect} :
      r.stage? id = some (.finished (.ok .unchanged)) ->
      Effect.Renews [.created [], .published r.directory.published] effects effects' ->
      Beside id r effects
        (r.renewed.setStage id (.finished (.ok (.rebuilt 0 r.directory.published.length 0))))
        effects'
  | dropped {r : Reconciler} {effects effects' : List Effect} :
      r.stage? id = some .abandoned ->
      Effect.Renews [.created []] effects effects' -> Beside id r effects r effects'

variable {r : Reconciler} {id other : RunId} {event : Event} {effects effects' : List Effect}
  {attempts : List Attempt} {queried : List Address}

/-!
## Stages that are set one after the other
-/

theorem setStage_setStage (r : Reconciler) (id : RunId) (s t : RunStage) :
    (r.setStage id s).setStage id t = r.setStage id t := by
  unfold setStage
  dsimp only
  rw [List.modify_modify_eq]
  rfl

theorem setStage_comm (r : Reconciler) (hne : id ≠ other) (s t : RunStage) :
    (r.setStage id s).setStage other t = (r.setStage other t).setStage id s := by
  unfold setStage
  dsimp only
  rw [List.modify_modify_ne _ _ _ hne]

theorem setStage_releaseLock (r : Reconciler) (id other : RunId) (s : RunStage) :
    (r.setStage id s).releaseLock other = (r.releaseLock other).setStage id s := by
  unfold releaseLock
  rw [holder_setStage]
  split
  · rfl
  · rfl

theorem conclude_setStage (r : Reconciler) (id : RunId) (s : RunStage)
    (result : Except ClusterError RunOutcome) :
    (r.setStage id s).conclude id result = r.conclude id result := by
  unfold conclude
  rw [kindOf_setStage, setStage_setStage]

theorem setStage_conclude (r : Reconciler) (id : RunId)
    (result result' : Except ClusterError RunOutcome) :
    (r.conclude id result).setStage id (.finished result') = r.conclude id result' := by
  unfold conclude
  cases r.kindOf id with
  | bare => exact setStage_setStage r id _ _
  | serial =>
      dsimp only
      rw [← setStage_releaseLock, setStage_setStage]

theorem renewed_conclude (r : Reconciler) (id : RunId)
    (result : Except ClusterError RunOutcome) :
    r.renewed.conclude id result = (r.conclude id result).renewed := by
  have hkind : r.renewed.kindOf id = r.kindOf id := rfl
  unfold conclude
  rw [hkind]
  cases r.kindOf id with
  | bare => rfl
  | serial =>
      show (r.renewed.setStage id _).releaseLock id = ((r.setStage id _).releaseLock id).renewed
      unfold releaseLock
      split
      · rename_i hholder
        rw [if_pos (show (r.setStage id _).holder = some id from hholder)]
        rfl
      · rename_i hholder
        rw [if_neg (show ¬(r.setStage id _).holder = some id from hholder)]
        rfl

/-!
## The end of the two runs

Both runs come to their end with the same attempts.
-/

theorem replaced_self (r : Reconciler) :
    r.replaced r.directory.published r.directory.published = r.renewed := by
  unfold replaced leaving
  rw [Topology.superseded_self]
  rfl

theorem beside_complete {s : RunStage} (hs : r.stage? id = some s) (t : RunStage)
    (attempts : List Attempt) (h : Effect.Renews [.created []] effects effects') :
    Beside id (r.complete id r.directory.published .keep attempts).1
      (effects ++ (r.complete id r.directory.published .keep attempts).2)
      ((r.setStage id t).complete id r.directory.published r.renewal attempts).1
      (effects' ++ ((r.setStage id t).complete id r.directory.published r.renewal attempts).2) := by
  have hleaving : leaving r.directory r.directory.published r.directory.published = [] := by
    rw [leaving, Topology.superseded_self]
    rfl
  have hreplaced : (r.setStage id t).replaced r.directory.published r.directory.published =
      r.renewed.setStage id t := replaced_self (r.setStage id t)
  have hslow : (r.renewed.setStage id t).conclude id
      (.ok (.rebuilt 0 r.directory.published.length 0)) =
        (r.conclude id (.ok .unchanged)).renewed.setStage id
          (.finished (.ok (.rebuilt 0 r.directory.published.length 0))) := by
    rw [conclude_setStage, renewed_conclude, ← setStage_conclude r id (.ok .unchanged)]
    rfl
  -- The health is that of the same peers.
  have hreport : ((r.renewed.setStage id t).succeed id
      (.rebuilt 0 r.directory.published.length 0)).2 = (r.succeed id .unchanged).2 := by
    have hkind : (r.renewed.setStage id t).kindOf id = r.kindOf id := kindOf_setStage _ _ _ _
    unfold succeed
    rw [hkind]
    cases r.kindOf id with
    | bare => rfl
    | serial => rfl
  have hend : (r.conclude id (.ok .unchanged)).stage? id = some (.finished (.ok .unchanged)) := by
    rw [stage?_conclude]
    exact stage?_setStage_self hs _
  have hwarnings : Effect.Renews [] (warnings r.directory attempts)
      (warnings r.directory attempts) :=
    Effect.renews_nil fun e he => Effect.isRenewal_of_isNotice (isNotice_warnings _ _ e he)
  have hsucceed : Effect.Renews [] (r.succeed id .unchanged).2 (r.succeed id .unchanged).2 :=
    Effect.renews_nil fun e he => Effect.isRenewal_of_isNotice (isNotice_succeed _ _ _ e he)
  have hpublished : Effect.Renews [.published r.directory.published] []
      [.published r.directory.published] := ⟨rfl, rfl⟩
  have hrenews := h.append ((hwarnings.append hpublished).append hsucceed)
  rw [List.append_nil] at hrenews
  have hover := Beside.ended (r := r.conclude id (.ok .unchanged)) hend
    (directory_conclude r id _ ▸ hrenews)
  rw [directory_conclude, List.append_nil] at hover
  unfold renewal
  rw [complete_keep, complete_replace, directory_setStage, hleaving, hreplaced, List.length_nil,
    hslow, hreport, List.map_nil, List.append_nil]
  exact hover

/-!
## The beginning
-/

theorem setStage_self {s : RunStage} (hs : r.stage? id = some s) : r.setStage id s = r := by
  have hruns : r.runs.modify id (fun run => { run with stage := s }) = r.runs := by
    apply List.ext_getElem?
    intro n
    rw [List.getElem?_modify]
    by_cases hn : id = n
    · subst hn
      rcases Option.map_eq_some_iff.mp hs with ⟨run, hrun, rfl⟩
      rw [hrun]
      simp
    · simp [hn]
  unfold setStage
  rw [hruns]

theorem rebuild_eq (hfit : r.directory.Fit) (hconfirms : r.confirms queried = true) :
    r.rebuild id (r.told queried) =
      ((r.connect id r.directory.published r.renewal r.directory.published).1,
        r.sizeOf queried :: .created [] ::
          (r.connect id r.directory.published r.renewal r.directory.published).2) := by
  rcases hfit.listed with ⟨listed, _, hlists⟩
  have hconfirmed := (confirms_iff hlists.known).mp hconfirms
  unfold rebuild told
  dsimp only
  rw [hconfirmed.draft_eq (Topology.ranked_normalize _ _), List.drop_length]
  rfl

theorem renews_asks (d : Directory) (id : RunId) (peers : List PeerId) :
    Effect.Renews [] (asks d id peers) (asks d id peers) := by
  apply Effect.renews_nil
  intro e he
  rcases exists_of_mem_asks he with ⟨_, _, _, _, _, rfl⟩
  rfl

theorem beside_connect {s : RunStage} (hs : r.stage? id = some s)
    (h : Effect.Renews [.created []] effects effects') :
    Beside id (r.connect id r.directory.published .keep r.directory.published).1
      (effects ++ (r.connect id r.directory.published .keep r.directory.published).2)
      (r.connect id r.directory.published r.renewal r.directory.published).1
      (effects' ++ (r.connect id r.directory.published r.renewal r.directory.published).2) := by
  unfold connect
  cases Topology.pending r.directory r.directory.published with
  | nil =>
      have hcomplete := beside_complete hs s [] h
      rw [setStage_self hs] at hcomplete
      exact hcomplete
  | cons first rest =>
      have hstage := stage?_setStage_self hs (.connecting r.directory.published .keep
        ((first :: rest).map fun peer => ⟨peer, none⟩))
      have hasks := h.append (renews_asks r.directory id (first :: rest))
      rw [List.append_nil] at hasks
      have hgoing := Beside.going (r := r.setStage id _) hstage hasks
      rw [setStage_setStage] at hgoing
      exact hgoing

theorem beside_told (hs : r.stage? id = some .querying) (hfit : r.directory.Fit)
    (hconfirms : r.confirms queried = true) :
    Beside id (r.step (.answered id (.ok queried))).1 (r.step (.answered id (.ok queried))).2
      (r.rebuild id (r.told queried)).1 (r.rebuild id (r.told queried)).2 := by
  have hstep : r.step (.answered id (.ok queried)) = r.confirm id (r.told queried) := by
    show r.answer id (.ok queried) = _
    unfold answer
    rw [hs]
    exact if_pos hconfirms
  have hprelude : Effect.Renews [.created []] [r.sizeOf queried]
      [r.sizeOf queried, .created []] := ⟨rfl, rfl⟩
  rw [hstep, rebuild_eq hfit hconfirms]
  exact beside_connect hs hprelude

/-!
## The way

Both runs hear the same answers, and what others do is the same whatever the run plans. A run that
is dropped leaves no trace of its plan, and an event that neither drops the run nor answers an open
connect changes nothing.
-/

theorem modify_concat {runs : List Run} {f : Run -> Run} {n : Nat} (hlt : n < runs.length)
    (more : Run) : (runs ++ [more]).modify n f = runs.modify n f ++ [more] := by
  apply List.ext_getElem?
  intro k
  rw [List.getElem?_modify]
  rcases Nat.lt_or_ge k runs.length with hk | hk
  · rw [List.getElem?_append_left hk, List.getElem?_append_left (by simpa using hk),
      List.getElem?_modify]
  · have hne : n ≠ k := Nat.ne_of_lt (Nat.lt_of_lt_of_le hlt hk)
    rw [List.getElem?_append_right hk, List.getElem?_append_right (by simpa using hk),
      List.length_modify]
    simp [hne]

section Way

variable {current : List PeerId} {plan : Plan}
  (hs : r.stage? id = some (.connecting current plan attempts))

include hs

theorem begin_setStage (t : RunStage) (kind : RunKind) :
    (r.setStage id t).begin kind = ((r.begin kind).1.setStage id t, (r.begin kind).2) := by
  rcases Option.map_eq_some_iff.mp hs with ⟨run, hrun, _⟩
  have hlt := (List.getElem?_eq_some_iff.mp hrun).1
  cases kind with
  | serial =>
      unfold begin setStage
      dsimp only
      rw [List.length_modify, modify_concat hlt]
  | bare =>
      unfold begin setStage
      dsimp only
      rw [List.length_modify, modify_concat hlt]

omit hs in
theorem abandon_setStage_ne (hne : id ≠ other) (t : RunStage) :
    (r.setStage id t).abandon other = (r.abandon other).setStage id t := by
  have hover : (r.setStage id t).isOver other = r.isOver other := by
    unfold isOver
    rw [stage?_setStage_ne r hne]
  unfold abandon
  rw [hover]
  split
  · rfl
  · dsimp only
    rw [setStage_comm r hne, setStage_releaseLock]
    rfl

theorem abandon_setStage_self {t : RunStage} (ht : t.isOver = false) :
    (r.setStage id t).abandon id = r.abandon id := by
  have hgoing : r.isOver id = false := isOver_eq hs
  have hgoing' : (r.setStage id t).isOver id = false :=
    (isOver_eq (stage?_setStage_self hs t)).trans ht
  unfold abandon
  rw [hgoing, hgoing']
  simp only [Bool.false_eq_true, if_false]
  rw [setStage_setStage]

theorem step_setStage_of_other (horderly : r.Orderly) (hserial : event.IsSerial)
    (hother : r.owner? event ≠ some id) (t : RunStage) :
    (r.setStage id t).step event = ((r.step event).1.setStage id t, (r.step event).2) ∧
      forall e, e ∈ (r.step event).2 -> e.IsNotice := by
  have hsingle : forall {run s}, r.stage? run = some s -> s.IsActive -> run = id :=
    fun hrun hactive => horderly.eq_of_isActive hs True.intro hrun hactive
  cases event with
  | registered address answer =>
      refine ⟨?_, isNotice_registered r _ answer⟩
      cases answer with
      | error e => rfl
      | ok _ => rfl
  | begun kind => exact ⟨begin_setStage hs t kind, isNotice_begin r kind⟩
  | granted =>
      have hnone : r.nextInLine? = none := by
        unfold nextInLine?
        rw [horderly.single id _ hs True.intro]
        rfl
      have hgrant : r.grant = (r, []) := grant_of_nextInLine?_eq_none hnone
      have hgrant' : (r.setStage id t).grant = (r.setStage id t, []) :=
        grant_of_nextInLine?_eq_none hnone
      show (r.setStage id t).grant = (r.grant.1.setStage id t, r.grant.2) ∧
        forall e, e ∈ r.grant.2 -> e.IsNotice
      rw [hgrant, hgrant']
      exact ⟨rfl, fun e he => by cases he⟩
  | answered run answer =>
      have hne : id ≠ run := fun heq => hother (congrArg some heq.symm)
      have hnot : r.stage? run ≠ some .querying := fun hquerying =>
        hne (hsingle hquerying True.intro).symm
      have hnot' : (r.setStage id t).stage? run ≠ some .querying := by
        rw [stage?_setStage_ne r hne]
        exact hnot
      show (r.setStage id t).answer run answer =
        ((r.answer run answer).1.setStage id t, (r.answer run answer).2) ∧
          forall e, e ∈ (r.answer run answer).2 -> e.IsNotice
      rw [answer_of_not_querying hnot, answer_of_not_querying hnot']
      exact ⟨rfl, fun e he => by cases he⟩
  | replied run k answer =>
      have hne : id ≠ run := fun heq => hother (congrArg some heq.symm)
      have hidle : r.reply run k answer = (r, []) := by
        rcases reply_cases r run k answer with hidle | ⟨_, _, _, _, _, hconnecting, _, _⟩
        · exact hidle
        · exact absurd (hsingle hconnecting True.intro).symm hne
      have hidle' : (r.setStage id t).reply run k answer = (r.setStage id t, []) := by
        rcases reply_cases (r.setStage id t) run k answer with
          hidle | ⟨_, _, _, _, _, hconnecting, _, _⟩
        · exact hidle
        · rw [stage?_setStage_ne r hne] at hconnecting
          exact absurd (hsingle hconnecting True.intro).symm hne
      show (r.setStage id t).reply run k answer =
        ((r.reply run k answer).1.setStage id t, (r.reply run k answer).2) ∧
          forall e, e ∈ (r.reply run k answer).2 -> e.IsNotice
      rw [hidle, hidle']
      exact ⟨rfl, fun e he => by cases he⟩
  | dropped run =>
      have hne : id ≠ run := fun heq => hother (congrArg some heq.symm)
      refine ⟨?_, fun e he => by cases he⟩
      exact congrArg (fun r => (r, [])) (abandon_setStage_ne hne t)
  | closed peer => exact hserial.elim

end Way

theorem owner?_setStage (r : Reconciler) (id : RunId) (t : RunStage) (event : Event) :
    (r.setStage id t).owner? event = r.owner? event := by
  cases event with
  | begun kind => exact congrArg some (List.length_modify _ _ _)
  | _ => rfl

theorem beside_reply
    (hs : r.stage? id = some (.connecting r.directory.published .keep attempts))
    (h : Effect.Renews [.created []] effects effects') {k : Nat} {n : PeerId} {p : Peer}
    (hk : attempts[k]? = some ⟨n, none⟩) (hp : r.directory.peer? n = some p)
    (answer : Except ClusterError Channel) :
    Beside id (r.reply id k answer).1 (effects ++ (r.reply id k answer).2)
      ((r.setStage id (.connecting r.directory.published r.renewal attempts)).reply
        id k answer).1
      (effects' ++
        ((r.setStage id (.connecting r.directory.published r.renewal attempts)).reply
          id k answer).2) := by
  have hs' := stage?_setStage_self hs (.connecting r.directory.published r.renewal attempts)
  have hanswered : Effect.Renews [.created []] (effects ++ [.answered n answer])
      (effects' ++ [.answered n answer]) := h.append ⟨rfl, rfl⟩
  have hconnected : (r.connected n answer).stage? id = _ := hs
  by_cases hlast : (attempted attempts k n p answer).all Attempt.isOver = true
  · rw [reply_last hs hk hp answer hlast, reply_last hs' hk hp answer hlast, List.append_cons,
      List.append_cons effects']
    exact beside_complete hconnected _ (attempted attempts k n p answer) hanswered
  · rw [reply_not_last hs hk hp answer hlast, reply_not_last hs' hk hp answer hlast]
    have hstage := stage?_setStage_self hconnected
      (.connecting r.directory.published .keep (attempted attempts k n p answer))
    have hgoing := Beside.going (r := (r.connected n answer).setStage id _) hstage hanswered
    have hslow : (Reconciler.connected (r.setStage id (.connecting r.directory.published r.renewal
        attempts)) n answer) = (r.connected n answer).setStage id
          (.connecting r.directory.published r.renewal attempts) := rfl
    rw [setStage_setStage] at hgoing
    rw [hslow, setStage_setStage]
    exact hgoing

theorem step_of_idle (hs : r.stage? id = some (.connecting current plan attempts))
    (hlocked : r.Locked) (howner : r.owner? event = some id) (hdropped : event ≠ .dropped id)
    (hready : ¬exists k answer n p, event = .replied id k answer ∧
      attempts[k]? = some ⟨n, none⟩ ∧ r.directory.peer? n = some p) :
    r.step event = (r, []) := by
  rcases own_step_cases hs hlocked howner with hidle | hevent | hready'
  · exact hidle
  · exact absurd hevent hdropped
  · exact absurd hready' hready

/-- One step of the two runs. -/
theorem beside_step (horderly : r.Orderly) (hserial : event.IsSerial)
    (hs : r.stage? id = some (.connecting r.directory.published .keep attempts))
    (h : Effect.Renews [.created []] effects effects') :
    Beside id (r.step event).1 (effects ++ (r.step event).2)
      ((r.setStage id (.connecting r.directory.published r.renewal attempts)).step event).1
      (effects' ++
        ((r.setStage id (.connecting r.directory.published r.renewal attempts)).step
          event).2) := by
  have hs' := stage?_setStage_self hs (.connecting r.directory.published r.renewal attempts)
  have hmore : forall {more : List Effect}, (forall e, e ∈ more -> e.IsNotice) ->
      Effect.Renews [.created []] (effects ++ more) (effects' ++ more) := by
    intro more hmore
    have hnil := Effect.renews_nil fun e he => Effect.isRenewal_of_isNotice (hmore e he)
    exact List.append_nil [Effect.created []] ▸ h.append hnil
  by_cases howner : r.owner? event = some id
  · by_cases hdropped : event = .dropped id
    · subst hdropped
      show Beside id (r.abandon id) (effects ++ []) (Reconciler.abandon _ id) (effects' ++ [])
      rw [abandon_setStage_self hs rfl]
      exact Beside.dropped (stage?_abandon_self hs rfl) (hmore fun e he => by cases he)
    · by_cases hready : exists k answer n p, event = .replied id k answer ∧
          attempts[k]? = some ⟨n, none⟩ ∧ r.directory.peer? n = some p
      · rcases hready with ⟨k, answer, n, p, rfl, hk, hp⟩
        exact beside_reply hs h hk hp answer
      · have hlocked := horderly.locked.connecting hs True.intro
          (.connecting r.directory.published r.renewal attempts)
        have howner' : (r.setStage id (.connecting r.directory.published r.renewal
            attempts)).owner? event = some id := (owner?_setStage _ _ _ _).trans howner
        rw [step_of_idle hs horderly.locked howner hdropped hready,
          step_of_idle hs' hlocked howner' hdropped hready]
        exact Beside.going hs (hmore fun e he => by cases he)
  · rcases step_setStage_of_other hs horderly hserial howner
      (.connecting r.directory.published r.renewal attempts) with ⟨hstep, hnotice⟩
    have hdirectory := directory_step_of_other hs horderly hserial howner
    have hstage := (stage?_step_of_owner?_ne howner).trans hs
    rw [← hdirectory] at hstage
    have hgoing := Beside.going hstage (hmore hnotice)
    rw [hstep]
    unfold renewal at hgoing ⊢
    rw [hdirectory] at hgoing
    exact hgoing

/-!
## The whole way
-/

def Lasts (r : Reconciler) (id : RunId) (later : List Event) : Prop :=
  forall past event rest, later = past ++ event :: rest -> (r.after past).isOver id = false

/-- Up to the end of the run it makes no difference to anyone which path it has taken. -/
theorem beside_after (horderly : r.Orderly) (hs : r.stage? id = some .querying)
    (hfit : r.directory.Fit) (hconfirms : r.confirms queried = true) {later : List Event}
    (hserial : forall e, e ∈ later -> e.IsSerial)
    (hlasts : (r.step (.answered id (.ok queried))).1.Lasts id later) :
    Beside id (r.after (.answered id (.ok queried) :: later))
      (r.trace (.answered id (.ok queried) :: later))
      ((r.rebuild id (r.told queried)).1.after later)
      ((r.rebuild id (r.told queried)).2 ++
        (r.rebuild id (r.told queried)).1.trace later) := by
  induction later using List.reverseRecOn with
  | nil =>
      have htold := beside_told hs hfit hconfirms
      rw [trace, trace, trace, List.append_nil, List.append_nil]
      exact htold
  | append_singleton later event ih =>
      have hserial' : forall e, e ∈ later -> e.IsSerial :=
        fun e he => hserial e (List.mem_append_left _ he)
      have hlast : event.IsSerial := hserial event (List.mem_append_right _ List.mem_cons_self)
      have hgoing : (r.after (.answered id (.ok queried) :: later)).isOver id = false :=
        hlasts later event [] rfl
      have hlasts' : (r.step (.answered id (.ok queried))).1.Lasts id later := by
        intro past e rest hsplit
        exact hlasts past e (rest ++ [event]) (by rw [hsplit]; simp)
      have htold : (r.step (.answered id (.ok queried))).1.Orderly := horderly.step True.intro
      have horderly' : (r.after (.answered id (.ok queried) :: later)).Orderly :=
        htold.run fun e he => (hserial' e he).takesLock
      have hbeside := ih hserial' hlasts'
      rw [← List.cons_append, after_concat, after_concat, trace_concat, trace_concat,
        ← List.append_assoc]
      generalize r.after (.answered id (.ok queried) :: later) = now at *
      generalize (r.rebuild id (r.told queried)).1.after later = now' at *
      cases hbeside with
      | going hstage hrenews => exact beside_step horderly' hlast hstage hrenews
      | ended hstage _ => cases (isOver_eq hstage).symm.trans hgoing
      | dropped hstage _ => cases (isOver_eq hstage).symm.trans hgoing

end Reconciler
end ClusterNode
