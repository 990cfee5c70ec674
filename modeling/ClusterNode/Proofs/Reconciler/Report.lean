import ClusterNode.Proofs.Reconciler.Agreement
import ClusterNode.Proofs.Reconciler.Share
import Mathlib.Data.Finset.Card

/-!
# What a run reports

Everything that a run tells about the topology follows from the answer to its query, the address of
this node and the list that was published when the answer came. The health of a node is even
simpler: it depends on the address of this node and on the set of members, however the list has come
about.
-/

namespace ClusterNode

/-!
## Health and members

A normalised answer names each member once. The peer of this node is the one for its address, if
that is the address of a member.
-/

namespace Address

variable {a b : Address}

theorem host_eq_of_key_eq (h : a.key = b.key) : a.host = b.host := congrArg Prod.fst h

theorem isLoopback_congr (h : a.key = b.key) : a.isLoopback = b.isLoopback := by
  unfold isLoopback
  rw [host_eq_of_key_eq h]

theorem toText_congr (h : a.key = b.key) : a.toText = b.toText := by
  have hport : a.port = b.port := congrArg Prod.snd h
  unfold toText
  rw [host_eq_of_key_eq h, hport]

end Address

def members (addresses : List Address) : Finset (String × UInt16) :=
  (addresses.map Address.key).toFinset

theorem mem_members_iff {addresses : List Address} {key : String × UInt16} :
    key ∈ members addresses <-> exists a, a ∈ addresses ∧ a.key = key := by
  unfold members
  rw [List.mem_toFinset, List.mem_map]

theorem members_normalize (selfAddress : Option Address) (queried : List Address) :
    members (Topology.normalize selfAddress queried) = members queried := by
  ext key
  unfold members
  rw [List.mem_toFinset, List.mem_toFinset, Topology.mem_key_normalize]

theorem card_members (selfAddress : Option Address) (queried : List Address) :
    (members queried).card = (Topology.normalize selfAddress queried).length := by
  have hnodup : ((Topology.normalize selfAddress queried).map Address.key).Nodup := by
    apply List.pairwise_map.mpr
    exact (Topology.ranked_normalize selfAddress queried).imp fun hab =>
      Topology.key_ne_of_precedes hab.left
  rw [← members_normalize selfAddress, members, List.toFinset_card_of_nodup hnodup,
    List.length_map]

namespace NodeHealth

/-- What is to be reported by a node that has asked for the members. -/
def verdict (requireSelf : Bool) (selfAddress : Option Address)
    (members : Finset (String × UInt16)) : HealthReport :=
  if members = ∅ then .unhealthy noInstances
  else if requireSelf = true ∧ forall s, s ∈ selfAddress -> s.key ∉ members then
    .unhealthy selfMissing
  else
    match selfAddress with
    | some s =>
        if s.key ∈ members ∧ 1 < members.card ∧ s.isLoopback = true then
          .unhealthy (loopbackSelf s)
        else .healthy
    | none => .healthy

variable {requireSelf : Bool} {selfAddress : Option Address} {queried : List Address}
  {peers : List Peer}

theorem find?_isSelf_cases
    (h : List.Forall₂ (fun p a => Topology.stands p a = true) peers
      (Topology.normalize selfAddress queried)) :
    (peers.find? Peer.isSelf = none ∧ forall s, s ∈ selfAddress -> s.key ∉ members queried) ∨
      exists here s, peers.find? Peer.isSelf = some here ∧ selfAddress = some s ∧
        here.address.key = s.key ∧ s.key ∈ members queried := by
  cases hfind : peers.find? Peer.isSelf with
  | some here =>
      right
      rcases Topology.exists_of_mem_left h (List.mem_of_find?_eq_some hfind) with ⟨a, ha, hstands⟩
      rcases (Topology.stands_iff here a).mp hstands with ⟨hkey, hself⟩
      have hregistered : Topology.isRegistered selfAddress a = true := by
        rw [← Topology.isSelf_of_mem_normalize ha, ← hself]
        exact List.find?_some hfind
      rcases Option.map_eq_some_iff.mp ((Topology.isRegistered_iff selfAddress a).mp hregistered)
        with ⟨s, hs, hkey'⟩
      refine ⟨here, s, rfl, hs, hkey.trans hkey'.symm, ?_⟩
      rw [← members_normalize selfAddress, mem_members_iff]
      exact ⟨a, ha, hkey'.symm⟩
  | none =>
      left
      refine ⟨rfl, ?_⟩
      intro s hs hmem
      rw [← members_normalize selfAddress, mem_members_iff] at hmem
      rcases hmem with ⟨a, ha, hkey⟩
      have hregistered : Topology.isRegistered selfAddress a = true := by
        rw [Topology.isRegistered_iff, Option.mem_def.mp hs, Option.map_some, hkey]
      rcases Topology.exists_of_mem_left h.flip ha with ⟨p, hp, hstands⟩
      apply List.find?_eq_none.mp hfind p hp
      rw [((Topology.stands_iff p a).mp hstands).right, Topology.isSelf_of_mem_normalize ha]
      exact hregistered

/-- The check of the peers that stand for an answer comes to the verdict about its members. -/
theorem report_check
    (h : List.Forall₂ (fun p a => Topology.stands p a = true) peers
      (Topology.normalize selfAddress queried)) :
    (check requireSelf peers).report = verdict requireSelf selfAddress (members queried) := by
  have hcard : (members queried).card = peers.length :=
    (card_members selfAddress queried).trans h.length_eq.symm
  have hempty : members queried = ∅ <-> peers.isEmpty = true := by
    rw [← Finset.card_eq_zero, hcard, List.length_eq_zero_iff, List.isEmpty_iff]
  unfold check verdict
  by_cases hnone : peers.isEmpty = true
  · rw [if_pos hnone, if_pos (hempty.mpr hnone)]
    rfl
  · rw [if_neg hnone, if_neg (hnone ∘ hempty.mp)]
    rcases find?_isSelf_cases h with ⟨hfind, hmissing⟩ | ⟨here, s, hfind, rfl, hkey, hmember⟩
    · rw [hfind]
      dsimp only
      by_cases hrequired : requireSelf = true
      · rw [if_pos hrequired, if_pos ⟨hrequired, hmissing⟩]
        rfl
      · rw [if_neg hrequired, if_neg fun hboth => hrequired hboth.left]
        cases selfAddress with
        | none => rfl
        | some s =>
            dsimp only
            rw [if_neg fun hloopback => hmissing s rfl hloopback.left]
            rfl
    · have hfound : ¬(requireSelf = true ∧ forall t, t ∈ some s -> t.key ∉ members queried) :=
        fun hboth => hboth.right s rfl hmember
      have htext : loopbackSelf here.address = loopbackSelf s := by
        unfold loopbackSelf
        rw [Address.toText_congr hkey]
      rw [hfind, if_neg hfound]
      dsimp only
      rw [hcard, Address.isLoopback_congr hkey, htext]
      by_cases hloopback : 1 < peers.length ∧ s.isLoopback = true
      · rw [if_pos (by simpa using hloopback), if_pos ⟨hmember, hloopback⟩]
        rfl
      · rw [if_neg (by simpa using hloopback), if_neg fun hall => hloopback hall.right]
        rfl

end NodeHealth

/-!
## Effects about the topology

A serial run ends with a report about the list that it leaves.
-/

def Effect.health? : Effect -> Option HealthReport
  | health report => some report
  | _ => none

/-- The size of the cluster, new peers, the list and the peers that leave it, and the health. -/
def Effect.isTopology : Effect -> Bool
  | signal (.gauge _ _) => true
  | health _ => true
  | created _ => true
  | published _ => true
  | closed _ => true
  | _ => false

theorem Effect.isTopology_of_isCommit {e : Effect} (h : e.isCommit = true) :
    e.isTopology = true := by
  cases e with
  | published next => rfl
  | closed peer => rfl
  | _ => cases h

theorem Effect.health?_of_isCommit {e : Effect} (h : e.isCommit = true) : e.health? = none := by
  cases e with
  | health report => cases h
  | _ => rfl

theorem filterMap_health?_filter (effects : List Effect) :
    (effects.filter Effect.isTopology).filterMap Effect.health? =
      effects.filterMap Effect.health? := by
  rw [List.filterMap_filter]
  apply List.filterMap_congr
  intro e _
  cases e with
  | signal s => cases s <;> rfl
  | _ => rfl

theorem filterMap_health?_of_tentative {effects : List Effect}
    (h : forall e, e ∈ effects -> e.IsTentative) : effects.filterMap Effect.health? = [] := by
  rw [List.filterMap_eq_nil_iff]
  intro e he
  have htentative := h e he
  cases e with
  | health report => exact htentative.elim
  | _ => rfl

namespace Reconciler

theorem filter_isTopology_asks (d : Directory) (id : RunId) (peers : List PeerId) :
    (asks d id peers).filter Effect.isTopology = [] := by
  rw [List.filter_eq_nil_iff]
  intro e he
  rcases exists_of_mem_asks he with ⟨_, _, _, _, _, rfl⟩
  exact Bool.false_ne_true

theorem filter_isTopology_warnings (d : Directory) (attempts : List Attempt) :
    (warnings d attempts).filter Effect.isTopology = [] := by
  rw [List.filter_eq_nil_iff]
  intro e he
  rcases List.mem_filterMap.mp he with ⟨a, _, ha⟩
  unfold Attempt.warning? at ha
  split at ha
  · cases ha
    exact Bool.false_ne_true
  · cases ha

theorem filter_isTopology_prelude (r : Reconciler) (queried : List Address) :
    (r.prelude queried).filter Effect.isTopology = r.prelude queried := by
  unfold prelude
  split
  · rfl
  · rfl

theorem filter_isTopology_commits (d : Directory) (current : List PeerId) (plan : Plan) :
    (plan.commits d current).filter Effect.isTopology = plan.commits d current := by
  rw [List.filter_eq_self]
  intro e he
  exact Effect.isTopology_of_isCommit (isCommit_of_mem_commits he)

theorem filterMap_health?_commits (d : Directory) (current : List PeerId) (plan : Plan) :
    (plan.commits d current).filterMap Effect.health? = [] := by
  rw [List.filterMap_eq_nil_iff]
  intro e he
  exact Effect.health?_of_isCommit (isCommit_of_mem_commits he)

variable {r r' : Reconciler} {id : RunId} {event : Event} {effects : List Effect}
  {current : List PeerId} {plan : Plan} {d : Directory} {history : List Event}
  {requireSelf : Bool}

theorem filter_isTopology_complete (hserial : r.kindOf id = RunKind.serial)
    (current : List PeerId) (plan : Plan) (attempts : List Attempt) :
    (r.complete id current plan attempts).2.filter Effect.isTopology =
      plan.commits r.directory current ++ [.health
        (r.check (r.complete id current plan attempts).1.directory.snapshot).report] := by
  have hkind : (r.carriedOut current plan).kindOf id = RunKind.serial := by
    rw [kindOf_eq, kinds_carriedOut, ← kindOf_eq, hserial]
  have hcheck : (r.carriedOut current plan).check = r.check := by
    cases plan with
    | keep => rfl
    | replace next created kept => rfl
  have hreport : ((r.carriedOut current plan).succeed id (plan.outcome r.directory current)).2 =
      [.health (r.check (r.carriedOut current plan).directory.snapshot).report] := by
    unfold succeed
    rw [hkind, ← hcheck]
  rw [complete_eq, List.filter_append, List.filter_append, filter_isTopology_warnings,
    filter_isTopology_commits, hreport, directory_conclude]
  rfl

/-!
## Settings
-/

def settings (r : Reconciler) : Option Address × HealthCheck := (r.internalAddress, r.check)

theorem settings_conclude (r : Reconciler) (id : RunId) (result : Except ClusterError RunOutcome) :
    (r.conclude id result).settings = r.settings := by
  unfold settings conclude releaseLock
  cases r.kindOf id with
  | bare => rfl
  | serial =>
      dsimp only
      split
      · rfl
      · rfl

theorem Turn.settings_eq (h : Turn r id event r' effects) : r'.settings = r.settings := by
  cases h with
  | rests _ => rfl
  | enters kind _ =>
      cases kind with
      | serial => rfl
      | bare => rfl
  | starts _ _ _ => rfl
  | fails e _ => exact settings_conclude r id _
  | goes d _ _ _ => rfl
  | @ends _ _ plan d _ attempts _ =>
      rw [complete_eq, settings_conclude]
      cases plan with
      | keep => rfl
      | replace next created kept => rfl
  | leaves _ _ =>
      unfold abandon releaseLock
      split
      · rfl
      · dsimp only
        split
        · rfl
        · rfl

theorem Aside.settings_eq (h : Aside r event r' effects) : r'.settings = r.settings := by
  cases h with
  | registers address answer =>
      cases answer with
      | error e => rfl
      | ok _ => rfl
  | rests => rfl
  | closes peer => rfl

theorem settings_after (r : Reconciler) (history : List Event) :
    (r.after history).settings = r.settings := by
  induction history generalizing r with
  | nil => rfl
  | cons event rest ih =>
      refine (ih (r.step event).1).trans ?_
      cases howner : r.owner? event with
      | none => exact (aside_step howner).settings_eq
      | some id => exact (turn_step howner).settings_eq

theorem check_after (r : Reconciler) (history : List Event) :
    (r.after history).check = r.check :=
  congrArg Prod.snd (settings_after r history)

theorem announced_after (r : Reconciler) (history : List Event) (address : Address) :
    (r.after history).announced address = r.announced address := by
  have hinternal : (r.after history).internalAddress = r.internalAddress :=
    congrArg Prod.fst (settings_after r history)
  unfold announced
  rw [hinternal]

/-!
## The account of a run

Steps of others leave the account of a run alone. A run that goes on has told the prelude of what it
was told of, and at its end it has given the whole account.
-/

/-- What a run tells about the topology that is told of these addresses now. -/
def accountOf (requireSelf : Bool) (r : Reconciler) (queried : List Address) : List Effect :=
  r.prelude queried ++ r.commitsOf queried ++
    [.health (NodeHealth.verdict requireSelf r.selfAddress (members queried))]

/-- What the stage of a run says about what it has told of the topology. -/
def Accounts (requireSelf : Bool) (r : Reconciler) (history : List Event) (id : RunId) :
    RunStage -> Prop
  | .connecting current plan _ => exists before queried, Told r history id before queried ∧
      current = (r.after before).directory.published ∧
      plan = (r.after before).decision queried ∧
      plan.Lists (r.after history).directory
        (Topology.normalize (r.after before).selfAddress queried) ∧
      (r.share id history).filter Effect.isTopology = (r.after before).prelude queried
  | .finished (.ok outcome) => exists before queried, Told r history id before queried ∧
      outcome = (r.after before).outcomeOf queried ∧
      (r.share id history).filter Effect.isTopology = accountOf requireSelf (r.after before) queried
  | .finished (.error e) => exists before, Answered r history id before (.error e) ∧
      (r.share id history).filter Effect.isTopology = [.health (.unhealthy e.message)]
  | _ => True

theorem Accounts.append {s : RunStage} {more : List Event}
    (h : Accounts requireSelf r history id s)
    (hshare : r.share id (history ++ more) = r.share id history)
    (hgrows : (r.after history).directory.Grows (r.after (history ++ more)).directory)
    (hlist : forall current plan attempts, s = .connecting current plan attempts ->
      (r.after (history ++ more)).directory.published = (r.after history).directory.published) :
    Accounts requireSelf r (history ++ more) id s := by
  cases s with
  | waiting => exact True.intro
  | querying => exact True.intro
  | abandoned => exact True.intro
  | connecting current plan attempts =>
      rcases h with ⟨before, queried, htold, hcurrent, hplan, hlists, haccount⟩
      exact ⟨before, queried, htold.append more, hcurrent, hplan,
        hlists.grows hgrows (hlist current plan attempts rfl), hshare ▸ haccount⟩
  | finished result =>
      cases result with
      | error e =>
          rcases h with ⟨before, hanswered, haccount⟩
          exact ⟨before, hanswered.append more, hshare ▸ haccount⟩
      | ok outcome =>
          rcases h with ⟨before, queried, htold, houtcome, haccount⟩
          exact ⟨before, queried, htold.append more, houtcome, hshare ▸ haccount⟩

section Run

variable (hrooted : r.Rooted) (htally : Tally r history id ((r.after history).stage? id))
  (haccounts : forall s, (r.after history).stage? id = some s ->
    Accounts requireSelf r history id s)

include hrooted htally haccounts

theorem Opening.account (h : Opening (r.after history) id event current plan d effects) :
    exists before queried, Told r (history ++ [event]) id before queried ∧
      (exists middle, history = before ++ middle) ∧
      current = (r.after before).directory.published ∧
      plan = (r.after before).decision queried ∧
      plan.Lists d (Topology.normalize (r.after before).selfAddress queried) ∧
      (r.share id history ++ effects).filter Effect.isTopology =
        (r.after before).prelude queried := by
  have hknown := (hrooted.run history).known
  have hgrows := h.grows hknown
  have hpublished := h.published_eq hknown
  cases h with
  | told queried hs =>
      rw [hs] at htally
      refine ⟨history, queried, ⟨⟨[], rfl⟩, hs⟩, ⟨[], (List.append_nil history).symm⟩, rfl, rfl,
        decision_lists hknown queried, ?_⟩
      rw [htally, List.filter_append, filter_isTopology_prelude]
      rfl
  | heard attempt answer hs _ =>
      rcases haccounts _ hs with ⟨before, queried, htold, hcurrent, hplan, hlists, haccount⟩
      refine ⟨before, queried, htold.append _, ?_, hcurrent, hplan,
        hlists.grows hgrows hpublished, ?_⟩
      · rcases htold with ⟨⟨later, hlater⟩, _⟩
        exact ⟨_, hlater⟩
      · rw [List.filter_append, haccount]
        exact List.append_nil _

theorem Opening.account_complete (hcheck : r.check = NodeHealth.check requireSelf)
    (hserial : (r.after history).kindOf id = RunKind.serial)
    (h : Opening (r.after history) id event current plan d effects) (attempts : List Attempt)
    (hshare : r.share id (history ++ [event]) = r.share id history ++ (effects ++
      ({ r.after history with directory := d }.complete id current plan attempts).2)) :
    Accounts requireSelf r (history ++ [event]) id
      (.finished (.ok (plan.outcome d current))) := by
  rcases h.account hrooted htally haccounts with
    ⟨before, queried, htold, ⟨middle, hsplit⟩, hcurrent, hplan, hlists, haccount⟩
  have hgrows := h.grows_told hrooted hsplit
  have hknown := (hrooted.run before).known
  have hcheck' : (r.after history).check = NodeHealth.check requireSelf :=
    (check_after r history).trans hcheck
  have hshows : ({ r.after history with directory := d }.complete id current plan attempts).1.Shows
      (Topology.normalize (r.after before).selfAddress queried) :=
    shows_complete hlists id current attempts
  have hcomplete : ({ r.after history with directory := d }.complete id current plan
      attempts).2.filter Effect.isTopology = plan.commits d current ++ [.health
        (NodeHealth.verdict requireSelf (r.after before).selfAddress (members queried))] := by
    rw [← NodeHealth.report_check hshows.resolve, ← hcheck']
    exact filter_isTopology_complete (r := { r.after history with directory := d }) hserial
      current plan attempts
  refine ⟨before, queried, htold, ?_, ?_⟩
  · rw [hplan, hcurrent]
    exact outcome_congr hgrows hknown _
  · rw [hshare, ← List.append_assoc, List.filter_append, haccount, hcomplete, hplan, hcurrent,
      commits_congr hgrows hknown, ← List.append_assoc]
    rfl

theorem Turn.accounts (hcheck : r.check = NodeHealth.check requireSelf)
    (horderly : (r.after history).Orderly) (h : Turn (r.after history) id event r' effects)
    (hshare : r.share id (history ++ [event]) = r.share id history ++ effects)
    (hafter : r.after (history ++ [event]) = r') {s : RunStage} (hs : r'.stage? id = some s) :
    Accounts requireSelf r (history ++ [event]) id s := by
  cases h with
  | rests _ =>
      apply (haccounts s hs).append
      · rw [hshare, List.append_nil]
      · rw [hafter]
        exact Directory.Grows.refl _
      · intro _ _ _ _
        rw [hafter]
  | enters kind hid =>
      rw [stage?_begin, if_pos hid.symm] at hs
      cases hs
      cases kind with
      | serial => exact True.intro
      | bare => exact True.intro
  | starts rest _ hqueue =>
      cases eq_of_stage?_setStage_self hs
      exact True.intro
  | fails e hquerying =>
      rw [hquerying] at htally
      rw [stage?_conclude] at hs
      cases eq_of_stage?_setStage_self hs
      refine ⟨history, ⟨⟨[], rfl⟩, hquerying⟩, ?_⟩
      rw [hshare, htally, fail_snd, horderly.serial id _ hquerying]
      rfl
  | goes d hopening hpeers hmore =>
      cases eq_of_stage?_setStage_self hs
      rcases hopening.account hrooted htally haccounts with
        ⟨before, queried, htold, _, hcurrent, hplan, hlists, haccount⟩
      refine ⟨before, queried, htold, hcurrent, hplan, ?_, ?_⟩
      · rw [hafter]
        exact hlists
      · rw [hshare, ← List.append_assoc, List.filter_append, haccount]
        rcases hmore with rfl | ⟨peers, rfl, _⟩
        · exact List.append_nil _
        · rw [filter_isTopology_asks, List.append_nil]
  | ends d attempts hopening =>
      rcases hopening.not_over with ⟨t, ht, _⟩
      rw [stage?_complete] at hs
      cases eq_of_stage?_setStage_self hs
      exact hopening.account_complete hrooted htally haccounts hcheck (horderly.serial id t ht)
        attempts hshare
  | leaves ht hgoing =>
      rw [stage?_abandon_self ht hgoing] at hs
      cases hs
      exact True.intro

end Run

/-- At every stage the account of a run is right. -/
theorem accounts_after (horderly : r.Orderly) (hrooted : r.Rooted) (hnew : r.runs = [])
    (hcheck : r.check = NodeHealth.check requireSelf) {history : List Event}
    (hlock : forall event, event ∈ history -> event.TakesLock) (id : RunId) :
    forall s, (r.after history).stage? id = some s -> Accounts requireSelf r history id s := by
  induction history using List.reverseRecOn with
  | nil =>
      intro s hs
      cases (stage?_eq_none_of_nil hnew id).symm.trans hs
  | append_singleton history event ih =>
      have hlock' : forall event, event ∈ history -> event.TakesLock :=
        fun event hevent => hlock event (List.mem_append_left _ hevent)
      have haccounts := ih hlock'
      have horderly' := horderly.run hlock'
      have hrooted' := hrooted.run history
      have hafter := after_concat r history event
      intro s hs
      by_cases howner : (r.after history).owner? event = some id
      · have htally := tally_after horderly.locked hrooted (stage?_eq_none_of_nil hnew id) history
        rw [hafter] at hs
        exact (turn_step howner).accounts hrooted htally haccounts hcheck horderly'
          (share_concat_of_owner? howner) hafter hs
      · rw [hafter, stage?_step_of_owner?_ne howner] at hs
        apply (haccounts s hs).append (share_concat_of_owner?_ne howner)
        · rw [hafter]
          exact grows_after hrooted' [event]
        · rintro current plan attempts rfl
          have hstays := (stage?_step_of_owner?_ne howner).trans hs
          have hquiet := (horderly'.alone event).quiet hstays
          rw [hafter]
          exact (same_list_of_quiet hrooted'.known hquiet).left

/-!
## The report of a run
-/

def reportOf (requireSelf : Bool) (selfAddress : Option Address) :
    Except ClusterError (List Address) -> HealthReport
  | .error e => .unhealthy e.message
  | .ok queried => NodeHealth.verdict requireSelf selfAddress (members queried)

theorem health?_accountOf (requireSelf : Bool) (r : Reconciler)
    {queried : List Address} (hs : r.stage? id = some .querying) :
    (accountOf requireSelf r queried).filterMap Effect.health? =
      [NodeHealth.verdict requireSelf r.selfAddress (members queried)] := by
  have hprelude := filterMap_health?_of_tentative (Opening.told queried hs).tentative
  rw [accountOf, List.filterMap_append, List.filterMap_append, hprelude, commitsOf,
    filterMap_health?_commits]
  rfl

/-- A run that is over has got an answer to its query, and it has reported once. The report depends
on the address of this node and the set of members at the time of the answer, or on the error. -/
theorem health_report_of_finished {internalAddress : Option Address} {requireSelf : Bool}
    {history : List Event} (hlock : forall event, event ∈ history -> event.TakesLock) {id : RunId}
    {result : Except ClusterError RunOutcome}
    (hend : ((create internalAddress (NodeHealth.check requireSelf)).after history).stage? id =
      some (.finished result)) :
    (exists before answer,
      Answered (create internalAddress (NodeHealth.check requireSelf)) history id before answer) ∧
    forall before answer,
      Answered (create internalAddress (NodeHealth.check requireSelf)) history id before answer ->
        ((create internalAddress (NodeHealth.check requireSelf)).share id history).filterMap
            Effect.health? =
          [reportOf requireSelf
            ((create internalAddress (NodeHealth.check requireSelf)).after before).selfAddress
            answer] := by
  have horderly := orderly_create internalAddress (NodeHealth.check requireSelf)
  have haccount := accounts_after horderly (rooted_create internalAddress _) rfl rfl hlock id _ hend
  rw [← filterMap_health?_filter]
  cases result with
  | error e =>
      rcases haccount with ⟨before, hanswered, haccount⟩
      refine ⟨⟨before, _, hanswered⟩, ?_⟩
      intro before' answer hanswered'
      rcases hanswered'.unique horderly.locked hanswered with ⟨rfl, rfl⟩
      rw [haccount]
      rfl
  | ok outcome =>
      rcases haccount with ⟨before, queried, htold, _, haccount⟩
      refine ⟨⟨before, .ok queried, htold⟩, ?_⟩
      intro before' answer hanswered'
      rcases hanswered'.unique horderly.locked htold with ⟨rfl, rfl⟩
      rw [haccount, health?_accountOf requireSelf _ htold.right]
      rfl

def loopbackMember : Address := { host := "localhost", port := 7 }

/-- A node with a loopback address, which does not reach the other member. -/
def unreachable : List Event :=
  [.registered loopbackMember (.ok ()), .begun .serial, .granted,
    .answered 0 (.ok [loopbackMember, memberA, loopbackMember]),
    .replied 0 0 (.error (.config "unreachable"))]

theorem stage?_unreachable :
    ((create none (NodeHealth.check true)).after unreachable).stage? 0 =
      some (.finished (.ok (.rebuilt 2 0 0))) := by
  have hnormalize : Topology.normalize (some (loopbackMember.withSelf true))
      [loopbackMember, memberA, loopbackMember] = [memberA, loopbackMember.withSelf true] :=
    (Address.sort_pair _ _).trans (if_neg (by decide))
  have hafter : (create none (NodeHealth.check true)).after unreachable =
      ((((((create none (NodeHealth.check true)).registered (loopbackMember.withSelf true)
        (.ok ())).1.begin .serial).1.grant).1.reconcile 0
          [loopbackMember, memberA, loopbackMember]).1.reply 0 0
            (.error (.config "unreachable"))).1 := rfl
  have hself : ((((create none (NodeHealth.check true)).registered (loopbackMember.withSelf true)
      (.ok ())).1.begin .serial).1.grant).1.selfAddress = some (loopbackMember.withSelf true) := rfl
  rw [hafter, reconcile, told, hself, hnormalize]
  rfl

/-- The loopback address is reported, and the failed connect is not. -/
theorem health_report_of_unreachable :
    (forall event, event ∈ unreachable -> event.TakesLock) ∧
      ((create none (NodeHealth.check true)).after unreachable).stage? 0 =
        some (.finished (.ok (.rebuilt 2 0 0))) ∧
      Answered (create none (NodeHealth.check true)) unreachable 0 (unreachable.take 3)
        (.ok [loopbackMember, memberA, loopbackMember]) ∧
      ((create none (NodeHealth.check true)).share 0 unreachable).filterMap Effect.health? =
        [.unhealthy (NodeHealth.loopbackSelf loopbackMember)] := by
  have hlock : forall event, event ∈ unreachable -> event.TakesLock := by
    simp [unreachable, Event.TakesLock]
  have hanswered : Answered (create none (NodeHealth.check true)) unreachable 0
      (unreachable.take 3) (.ok [loopbackMember, memberA, loopbackMember]) :=
    ⟨⟨[.replied 0 0 (.error (.config "unreachable"))], rfl⟩, rfl⟩
  refine ⟨hlock, stage?_unreachable, hanswered, ?_⟩
  rw [(health_report_of_finished hlock stage?_unreachable).right _ _ hanswered]
  decide +kernel

end Reconciler

end ClusterNode
