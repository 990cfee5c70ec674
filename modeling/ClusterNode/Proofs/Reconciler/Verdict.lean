import ClusterNode.Proofs.Reconciler.Identity
import ClusterNode.Proofs.Reconciler.Report

/-!
# The verdict of a health check

A health check may be any function of the published list, and the two fields of its status are
independent. A run that is over has reported once: the failure of its query, or the status for the
list that is published in its last step. A status that is unhealthy without a reason passes for a
healthy one; apart from it, reports and gauges say what the status says.
-/

namespace ClusterNode

namespace HealthStatus

/-- The status is unhealthy and does not say why. -/
def IsSilent (s : HealthStatus) : Prop := s.healthy = false ∧ s.reason = none

theorem report_eq_healthy_iff (s : HealthStatus) :
    s.report = .healthy <-> s.healthy = true ∨ s.reason = none := by
  rcases s with ⟨healthy, reason⟩
  unfold report
  cases reason with
  | none => simp
  | some text => cases healthy with
    | true => simp
    | false => simp

end HealthStatus

namespace HealthReport

/-- What is to be reported after this answer to a query, with this status of the list. -/
def ofAnswer (status : HealthStatus) : Except ClusterError (List Address) -> HealthReport
  | .error e => .unhealthy e.message
  | .ok _ => status.report

theorem ofAnswer_eq_healthy_iff (status : HealthStatus)
    (answer : Except ClusterError (List Address)) :
    ofAnswer status answer = .healthy <->
      (exists queried, answer = .ok queried) ∧ (status.healthy = true ∨ status.reason = none) := by
  cases answer with
  | error e => simp [ofAnswer]
  | ok queried => simp [ofAnswer, status.report_eq_healthy_iff]

/-- The report tells a healthy list from an unhealthy one. -/
def Distinguishes (report : HealthReport) (status : HealthStatus)
    (answer : Except ClusterError (List Address)) : Prop :=
  report = .healthy <-> (exists queried, answer = .ok queried) ∧ status.healthy = true

theorem distinguishes_ofAnswer_iff (status : HealthStatus)
    (answer : Except ClusterError (List Address)) :
    (ofAnswer status answer).Distinguishes status answer <->
      ¬((exists queried, answer = .ok queried) ∧ status.IsSilent) := by
  unfold Distinguishes HealthStatus.IsSilent
  rw [ofAnswer_eq_healthy_iff]
  cases status.healthy with
  | true => simp
  | false => simp

theorem gauges_signals (name : String) (report : HealthReport) :
    Signal.gauges (HealthGauge.signals name report) =
      [(HealthGauge.metric name, if report = .healthy then 1 else 0)] := by
  cases report with
  | healthy => rfl
  | unhealthy reason => rfl

end HealthReport

namespace Reconciler

variable {r r' : Reconciler} {id : RunId} {event : Event} {effects : List Effect}
  {history : List Event} {result : Except ClusterError RunOutcome}

def HasFinished (r : Reconciler) (id : RunId) : Prop :=
  exists result, r.stage? id = some (.finished result)

def Concludes (r : Reconciler) (history : List Event) (id : RunId) (before : List Event)
    (event : Event) : Prop :=
  (exists later, history = before ++ event :: later) ∧
    ¬(r.after before).HasFinished id ∧ (r.after (before ++ [event])).HasFinished id

theorem exists_concludes (hnew : r.runs = []) (hend : (r.after history).HasFinished id) :
    exists before event, Concludes r history id before event := by
  have hnot : ¬(r.after []).HasFinished id := by
    intro ⟨result, hs⟩
    cases (stage?_eq_none_of_nil hnew id).symm.trans hs
  rw [← List.nil_append history] at hend
  have hturning := exists_turning_point (P := fun h => (r.after h).HasFinished id) hnot hend
  rcases hturning with ⟨before, event, later, hsplit, hbefore, hafter⟩
  exact ⟨before, event, ⟨later, hsplit⟩, hbefore, hafter⟩

/-!
## The last step of a run

A run comes to its end when its query fails or when it carries out its plan. In that step a serial
run hears the failure, or reports about the list that is published then, and it makes no other
report.
-/

theorem filterMap_health?_complete (hserial : r.kindOf id = RunKind.serial)
    (current : List PeerId) (plan : Plan) (attempts : List Attempt) :
    (r.complete id current plan attempts).2.filterMap Effect.health? =
      [(r.check (r.complete id current plan attempts).1.directory.snapshot).report] := by
  rw [← filterMap_health?_filter, filter_isTopology_complete hserial, List.filterMap_append,
    filterMap_health?_commits]
  rfl

theorem Turn.fails_or_finishes (h : Turn r id event r' effects) (hnot : ¬r.HasFinished id)
    (hend : r'.HasFinished id) :
    (exists e, event = .answered id (.error e) ∧ r.stage? id = some .querying ∧
      effects = (r.fail id e).2) ∨
    exists current plan, Finishes r id event current plan r' effects := by
  rcases hend with ⟨result, hs⟩
  cases h with
  | rests _ => exact absurd ⟨result, hs⟩ hnot
  | enters kind hid =>
      rw [stage?_begin, if_pos hid.symm] at hs
      cases kind with
      | serial => cases hs
      | bare => cases hs
  | starts rest _ _ => cases eq_of_stage?_setStage_self hs
  | fails e hquerying => exact Or.inl ⟨e, rfl, hquerying, rfl⟩
  | goes d _ _ _ => cases eq_of_stage?_setStage_self hs
  | ends d attempts hopening => exact Or.inr ⟨_, _, d, _, attempts, hopening, rfl, rfl⟩
  | leaves ht hgoing =>
      rw [stage?_abandon_self ht hgoing] at hs
      cases hs

theorem Turn.going_of_hasFinished (h : Turn r id event r' effects) (hnot : ¬r.HasFinished id)
    (hend : r'.HasFinished id) : exists s, r.stage? id = some s ∧ s.isOver = false := by
  rcases h.fails_or_finishes hnot hend with ⟨e, _, hquerying, _⟩ | ⟨_, _, hfinishes⟩
  · exact ⟨_, hquerying, rfl⟩
  · rcases hfinishes with ⟨d, opening, attempts, hopening, _, _⟩
    exact hopening.not_over

theorem Turn.reports_of_hasFinished (h : Turn (r.after history) id event r' effects)
    (hserial : (r.after history).kindOf id = RunKind.serial)
    (htally : Tally r history id ((r.after history).stage? id))
    (hnot : ¬(r.after history).HasFinished id) (hend : r'.HasFinished id) :
    exists past answer, Answered r (history ++ [event]) id past answer ∧
      effects.filterMap Effect.health? = [HealthReport.ofAnswer
        ((r.after history).check r'.directory.snapshot) answer] := by
  rcases h.fails_or_finishes hnot hend with ⟨e, rfl, hquerying, rfl⟩ | ⟨current, plan, hfinishes⟩
  · refine ⟨history, .error e, ⟨⟨[], rfl⟩, hquerying⟩, ?_⟩
    rw [fail_snd, hserial]
    rfl
  · rcases hfinishes with ⟨d, opening, attempts, hopening, rfl, rfl⟩
    rcases hopening.exists_told htally with ⟨past, queried, htold, _⟩
    refine ⟨past, .ok queried, htold, ?_⟩
    rw [List.filterMap_append, filterMap_health?_of_tentative hopening.tentative,
      List.nil_append]
    exact filterMap_health?_complete (r := { r.after history with directory := d }) hserial
      current plan attempts

theorem Concludes.reports (hlocked : r.Locked) (hrooted : r.Rooted) (hnew : r.runs = [])
    {before : List Event} (h : Concludes r history id before event)
    (hserial : (r.after history).kindOf id = RunKind.serial) :
    exists past answer, Answered r history id past answer ∧
      (r.share id history).filterMap Effect.health? = [HealthReport.ofAnswer
        (r.check (r.after (before ++ [event])).directory.snapshot) answer] := by
  rcases h with ⟨⟨later, rfl⟩, hnot, hend⟩
  rcases hend with ⟨result, hs⟩
  have htally := tally_after hlocked hrooted (stage?_eq_none_of_nil hnew id) before
  -- It was the run's own step, for its stage has changed.
  have howner : (r.after before).owner? event = some id := by
    by_contra hother
    rw [after_concat, stage?_step_of_owner?_ne hother] at hs
    exact hnot ⟨result, hs⟩
  have hend : ((r.after before).step event).1.HasFinished id := by
    rw [← after_concat]
    exact ⟨result, hs⟩
  rcases (turn_step howner).going_of_hasFinished hnot hend with ⟨s, hbefore, hgoing⟩
  rw [after_append, kindOf_after (lt_kinds_of_stage? hbefore)] at hserial
  rcases (turn_step howner).reports_of_hasFinished hserial htally hnot hend with
    ⟨past, answer, hanswered, hreports⟩
  rw [hbefore] at htally
  refine ⟨past, answer, ?_, ?_⟩
  · rw [List.append_cons]
    exact hanswered.append later
  · have hlast := share_of_isOver (hlocked.run (before ++ [event])) hs rfl later
    rw [List.append_cons, share_append, hlast, List.append_nil, share_concat_of_owner? howner,
      List.filterMap_append, filterMap_health?_of_tentative (htally.tentative hgoing),
      List.nil_append, hreports, check_after, after_concat]

/-!
## Verdicts
-/

/-- Every completed serial run reports once, about the answer to its query and the status for the
list that is published when it ends. The report tells healthy from unhealthy unless the status is a
silent one, and a gauge shows what is reported. -/
theorem verdict_of_completed {internalAddress : Option Address} {check : HealthCheck}
    {history : List Event} {id : RunId}
    (hserial : ((create internalAddress check).after history).kindOf id = RunKind.serial)
    (hend : ((create internalAddress check).after history).HasFinished id) :
    exists before event past answer status report,
      Concludes (create internalAddress check) history id before event ∧
      Answered (create internalAddress check) history id past answer ∧
      status =
        check ((create internalAddress check).after (before ++ [event])).directory.snapshot ∧
      ((create internalAddress check).share id history).filterMap Effect.health? = [report] ∧
      (report.Distinguishes status answer <->
        ¬((exists queried, answer = .ok queried) ∧ status.IsSilent)) ∧
      forall name, Signal.gauges (HealthGauge.signals name report) =
        [(HealthGauge.metric name, if report = .healthy then 1 else 0)] := by
  have hlocked := locked_create internalAddress check
  have hrooted := rooted_create internalAddress check
  rcases exists_concludes rfl hend with ⟨before, event, hconcludes⟩
  rcases hconcludes.reports hlocked hrooted rfl hserial with ⟨past, answer, hanswered, hreports⟩
  exact ⟨before, event, past, answer, _, _, hconcludes, hanswered, rfl, hreports,
    HealthReport.distinguishes_ofAnswer_iff _ answer, fun name =>
      HealthReport.gauges_signals name _⟩

/-- A run that finds two members and reaches both of them. -/
def census : List Event :=
  [.begun .serial, .granted, .answered 0 (.ok [memberA, memberB]), .replied 0 0 (.ok 1),
    .replied 0 1 (.ok 2)]

def counting (check : HealthCheck) : Reconciler :=
  { internalAddress := none
    check
    directory :=
      { peers :=
          [{ address := memberA, link := .created }, { address := memberB, link := .created }]
        published := []
        edition := 0 }
    selfAddress := none
    runs := [⟨.serial, .connecting [] (.replace [0, 1] 2 0) [⟨0, none⟩, ⟨1, none⟩]⟩]
    holder := some 0
    queue := [] }

theorem after_found (check : HealthCheck) :
    (create none check).after (census.take 3) = counting check := by
  have hafter : (create none check).after (census.take 3) =
      (((create none check).begin .serial).1.grant.1.answer 0 (.ok [memberA, memberB])).1 := rfl
  have hs : ((create none check).begin .serial).1.grant.1.stage? 0 = some .querying := rfl
  have hself : ((create none check).begin .serial).1.grant.1.selfAddress = none := rfl
  have hnormalize : Topology.normalize none [memberA, memberB] = [memberA, memberB] :=
    (Address.sort_pair _ _).trans (if_pos (by decide))
  rw [hafter, answer, hs]
  dsimp only
  rw [reconcile, told, hself, hnormalize]
  rfl

theorem after_census (check : HealthCheck) :
    (create none check).after census = (counting check).after (census.drop 3) := by
  have hsplit : census = census.take 3 ++ census.drop 3 := rfl
  rw [hsplit, after_append, after_found]
  rfl

theorem stage?_census (check : HealthCheck) :
    ((create none check).after census).stage? 0 = some (.finished (.ok (.rebuilt 2 0 0))) := by
  rw [after_census]
  rfl

theorem reports_census (check : HealthCheck) :
    ((create none check).share 0 census).filterMap Effect.health? =
      ((counting check).share 0 (census.drop 3)).filterMap Effect.health? := by
  have hsplit : census = census.take 3 ++ census.drop 3 := rfl
  have htally := tally_after (locked_create none check) (rooted_create none check)
    (stage?_eq_none_of_nil rfl 0) (census.take 3)
  rw [after_found] at htally
  have hfound : ((create none check).share 0 (census.take 3)).filterMap Effect.health? = [] :=
    filterMap_health?_of_tentative (Tally.tentative (s := .connecting _ _ _) htally rfl)
  rw [hsplit, share_append, after_found, List.filterMap_append, hfound]
  rfl

def talkativeCheck : HealthCheck :=
  fun peers => { healthy := !peers.isEmpty, reason := some "counted" }

theorem verdict_of_talkative :
    ((create none talkativeCheck).after census).kindOf 0 = RunKind.serial ∧
      ((create none talkativeCheck).after census).HasFinished 0 ∧
      exists before event past answer status report,
        Concludes (create none talkativeCheck) census 0 before event ∧
        Answered (create none talkativeCheck) census 0 past answer ∧
        status =
          talkativeCheck
            ((create none talkativeCheck).after (before ++ [event])).directory.snapshot ∧
        ((create none talkativeCheck).share 0 census).filterMap Effect.health? = [report] ∧
        (report.Distinguishes status answer <->
          ¬((exists queried, answer = .ok queried) ∧ status.IsSilent)) ∧
        forall name, Signal.gauges (HealthGauge.signals name report) =
          [(HealthGauge.metric name, if report = .healthy then 1 else 0)] := by
  have hserial : ((create none talkativeCheck).after census).kindOf 0 = RunKind.serial := by
    rw [after_census]
    rfl
  have hend : ((create none talkativeCheck).after census).HasFinished 0 :=
    ⟨_, stage?_census talkativeCheck⟩
  exact ⟨hserial, hend, verdict_of_completed hserial hend⟩

def silentCheck : HealthCheck := fun _ => { healthy := false, reason := none }

/-- The list is unhealthy, the run reports that all is well, and the gauge is one. -/
theorem healthy_of_silent :
    ((create none silentCheck).after census).stage? 0 =
        some (.finished (.ok (.rebuilt 2 0 0))) ∧
      (silentCheck ((create none silentCheck).after census).directory.snapshot).healthy = false ∧
      ((create none silentCheck).share 0 census).filterMap Effect.health? = [.healthy] ∧
      Signal.gauges (HealthGauge.signals "cluster" .healthy) = [("cluster_health", 1)] := by
  refine ⟨stage?_census silentCheck, rfl, ?_, ?_⟩
  · rw [reports_census]
    rfl
  · decide +kernel

end Reconciler
end ClusterNode
