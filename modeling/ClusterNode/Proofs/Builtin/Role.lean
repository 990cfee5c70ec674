import ClusterNode.Proofs.Builtin.Bystanders

/-!
# The part of a node

The role in the settings of a node decides whether it is announced to the membership, and with it
who the node takes itself for in each list that it publishes. The core module registers the node
when it starts, and its task runs from the moment when everything has started until the module is
stopped. Whatever fails in between, what would come after it does not happen.
-/

namespace ClusterNode

/-- The key under which a node is registered. -/
def CoreSettings.registeredKey (settings : CoreSettings) (machineHost : String) :
    String × UInt16 :=
  if Text.isBlankText settings.internalHost = false ∧ 0 < settings.internalPort then
    (Text.trim settings.internalHost, settings.internalPort)
  else (settings.advertised machineHost).key

theorem Text.isEmpty_trim (text : String) : (trim text).isEmpty = isBlankText text := by
  unfold isBlankText trim
  rw [Bool.eq_iff_iff, String.isEmpty_iff, List.isEmpty_iff]
  simp

/-!
## The hooks of the core module

What is known of a node that nothing has been done to, of one whose core module has started, of one
whose modules have all started, and of one that the membership has refused. Whether a node starts is
the answer to its registration.
-/

namespace CoreModule

section Hooks

variable {β : Type} (s : Surroundings β) (settings : CoreSettings)

def announcement (machineHost : String) : Address :=
  (reconciler settings).announced (settings.advertised machineHost)

theorem key_announcement (machineHost : String) :
    (announcement settings machineHost).key = settings.registeredKey machineHost := by
  unfold announcement reconciler Reconciler.create Reconciler.announced
    CoreSettings.internalAddress? CoreSettings.registeredKey
  dsimp only
  rw [Text.isEmpty_trim]
  by_cases hset : Text.isBlankText settings.internalHost = false ∧ 0 < settings.internalPort
  · have hport : ¬(settings.internalPort == 0) = true := by
      simpa using UInt16.pos_iff_ne_zero.mp hset.right
    rw [if_pos hset, hset.left, Bool.false_or, if_neg hport]
    rfl
  · have hunset :
        (Text.isBlankText settings.internalHost || settings.internalPort == 0) = true := by
      rw [UInt16.pos_iff_ne_zero] at hset
      simpa [Classical.or_iff_not_imp_left] using hset
    rw [if_neg hset, if_pos hunset]
    rfl

def selfAddress? (machineHost : String) : Option Address :=
  if settings.role.registersSelf then some (announcement settings machineHost) else none

def entrant (machineHost : String) : Reconciler :=
  { reconciler settings with selfAddress := selfAddress? settings machineHost }

def entered (machineHost : String) : Charge :=
  { reconciler := some (entrant settings machineHost)
    task := none
    notes :=
      if settings.role.registersSelf then
        [Note.registered (announcement settings machineHost) (.ok ())]
      else [] }

def ticking (machineHost : String) : Charge :=
  { entered settings machineHost with
    task := some (RecurringTask.start (Time.seconds settings.refreshPeriodSecs) 0) }

def untouched : Charge := { reconciler := none, task := none, notes := [] }

def refused (machineHost : String) (e : ClusterError) : Charge :=
  { untouched with notes := [Note.registered (announcement settings machineHost) (.error e)] }

def registrationFailure (e : ClusterError) : Failure :=
  e.toFailure.within "failed to register this node to the cluster"

/-- What a start of the core module may come to on an untouched node. -/
inductive Starts (view : ModulesView Service) : Charge -> Except Failure Unit -> Prop where
  | lacks {e : ModuleError} : lookUp view = .error e -> Starts view untouched (.error e.toFailure)
  | fails (e : ClusterError) : lookUp view = .ok () -> settings.role.registersSelf = true ->
      Starts view (refused settings s.machineHost e) (.error (registrationFailure e))
  | enters : lookUp view = .ok () -> Starts view (entered settings s.machineHost) (.ok ())

variable {node : Node (β × List Note)}

theorem entered_of_registers (machineHost : String)
    (hrole : settings.role.registersSelf = true) :
    entered settings machineHost =
      { reconciler := some { reconciler settings with
          selfAddress := some (announcement settings machineHost) }
        task := none
        notes := [Note.registered (announcement settings machineHost) (.ok ())] } := by
  unfold entered entrant selfAddress?
  rw [if_pos hrole, if_pos hrole]

theorem entered_of_not_registers (machineHost : String)
    (hrole : ¬settings.role.registersSelf = true) :
    entered settings machineHost = { untouched with reconciler := some (reconciler settings) } := by
  have hnobody : forall (internalAddress : Option Address) (check : HealthCheck),
      { Reconciler.create internalAddress check with selfAddress := none } =
        Reconciler.create internalAddress check := fun _ _ => rfl
  have hentrant : { reconciler settings with selfAddress := none } = reconciler settings :=
    hnobody _ _
  unfold entered entrant selfAddress?
  rw [if_neg hrole, if_neg hrole, hentrant]
  rfl

theorem charge_withReconciler (next : Node (β × List Note)) (r : Reconciler) :
    Node.charge { next with reconciler := some r } = { next.charge with reconciler := some r } :=
  rfl

theorem starts_enter {view : ModulesView Service} (hlookUp : lookUp view = .ok ())
    (hrole : settings.role.registersSelf = true) (hnode : node.charge = untouched) :
    Starts s settings view (enter s.recorded settings node).1.charge
      (enter s.recorded settings node).2 := by
  rcases node.exists_answer_of_register s (reconciler settings)
    (settings.advertised s.machineHost) with ⟨answer, hcharge, hresult⟩
  have hhost : s.recorded.machineHost = s.machineHost := rfl
  have hannounced : (reconciler settings).announced (settings.advertised s.machineHost) =
    announcement settings s.machineHost := rfl
  rw [hnode, hannounced] at hcharge
  rw [hannounced] at hresult
  unfold enter
  rw [if_pos hrole, hhost]
  rcases hregister : node.register s.recorded (reconciler settings)
    (settings.advertised s.machineHost) with ⟨next, result⟩
  rw [hregister] at hcharge hresult
  cases answer with
  | error e =>
      cases hresult
      have hnext : next.charge = refused settings s.machineHost e := hcharge
      dsimp only
      rw [hnext]
      exact Starts.fails e hlookUp hrole
  | ok _ =>
      cases hresult
      have henters : Starts s settings view _ _ := Starts.enters hlookUp
      have haccepted : ((reconciler settings).registered
          (announcement settings s.machineHost) (.ok ())).1 =
        { reconciler settings with
          selfAddress := some (announcement settings s.machineHost) } := rfl
      rw [entered_of_registers settings s.machineHost hrole] at henters
      rw [haccepted]
      dsimp only
      rw [charge_withReconciler, hcharge]
      exact henters

theorem starts_start (view : ModulesView Service) (hnode : node.charge = untouched) :
    Starts s settings view (start s.recorded settings view node).1.charge
      (start s.recorded settings view node).2 := by
  unfold start
  cases hlookUp : lookUp view with
  | error e =>
      dsimp only
      rw [hnode]
      exact Starts.lacks hlookUp
  | ok _ =>
      dsimp only
      by_cases hrole : settings.role.registersSelf = true
      · exact starts_enter s settings hlookUp hrole hnode
      · have henters : Starts s settings view _ _ := Starts.enters hlookUp
        rw [entered_of_not_registers settings s.machineHost hrole] at henters
        unfold enter
        rw [if_neg hrole]
        dsimp only
        rw [charge_withReconciler, hnode]
        exact henters

theorem charge_afterAllStarted (hnode : node.charge = entered settings s.machineHost) :
    (afterAllStarted settings node).1.charge = ticking settings s.machineHost ∧
      (afterAllStarted settings node).2 = .ok () := by
  have hreconciler : node.reconciler = some (entrant settings s.machineHost) :=
    congrArg Charge.reconciler hnode
  unfold afterAllStarted
  split
  · rename_i hnone
    cases hreconciler.symm.trans hnone
  · refine ⟨?_, rfl⟩
    show { node.charge with
      task := some (RecurringTask.start (Time.seconds settings.refreshPeriodSecs) 0) } = _
    rw [hnode]
    rfl

theorem charge_prepare (registry : Registry Service) :
    ((prepare settings node).run registry).2.1.charge = node.charge := by
  unfold prepare
  split
  · rfl
  · rw [Preparation.world_run_registerAll]

/-!
## What stays true of a node
-/

theorem steady_entrant (machineHost : String) {notes : List Note}
    (hnotes : forall e, Note.did e ∉ notes) :
    Steady (selfAddress? settings machineHost) (NodeHealth.check settings.role.registersSelf)
      .idle (entrant settings machineHost) notes :=
  Steady.start settings.internalAddress? hnotes

/-- How a startup leaves a node as far as the core module is concerned, with what the module has
found when it looked for the others, whether its start was called, and how the startup has ended. -/
inductive Turnout (machineHost : String) (found : Except ModuleError Unit) (called : Prop)
    (result : Except ModuleError Unit) : Charge -> Prop where
  | untouched : (called -> found ≠ .ok ()) -> Turnout machineHost found called result untouched
  | refused (e : ClusterError) : called -> found = .ok () -> settings.role.registersSelf = true ->
      result = .error (.moduleStart moduleName "default" .start (registrationFailure e)) ->
      Turnout machineHost found called result (refused settings machineHost e)
  | entered : called -> found = .ok () ->
      Turnout machineHost found called result (entered settings machineHost)
  | ticking (works : List Work) : called -> found = .ok () ->
      Turnout machineHost found called result ((ticking settings machineHost).after works)

end Hooks

end CoreModule

/-!
## What a node knows about itself

The task registers nothing. A node that need not be in the list is not missed in it.
-/

def Note.registration? : Note -> Option (Address × Except ClusterError Unit)
  | registered address answer => some (address, answer)
  | _ => none

def registrations (notes : List Note) : List (Address × Except ClusterError Unit) :=
  notes.filterMap Note.registration?

namespace Charge

variable {c c' : Charge}

theorem registrations_append_did (notes : List Note) (effects : List Effect) :
    registrations (notes ++ effects.map Note.did) = registrations notes := by
  have hnone : effects.filterMap (Note.registration? ∘ Note.did) = [] := by
    rw [List.filterMap_eq_nil_iff]
    intro e _
    rfl
  unfold registrations
  rw [List.filterMap_append, List.filterMap_map, hnone, List.append_nil]

theorem Worked.registrations_eq (h : Worked c c') :
    registrations c'.notes = registrations c.notes := by
  cases h with
  | rests => rfl
  | begins _ _ _ _ => exact registrations_append_did _ _
  | granted _ _ => exact registrations_append_did _ _
  | told answer _ _ _ _ =>
      refine (registrations_append_did _ _).trans ?_
      unfold registrations
      rw [List.filterMap_append]
      exact List.append_nil _
  | heard _ _ _ _ _ => exact registrations_append_did _ _
  | settles _ _ _ _ => rfl

theorem registrations_after (c : Charge) (works : List Work) :
    registrations (c.after works).notes = registrations c.notes := by
  induction works generalizing c with
  | nil => rfl
  | cons w rest ih => exact (ih (c.work w)).trans (worked_work c w).registrations_eq

end Charge

section Missing

theorem ne_selfMissing_of_append {first : String} (rest : String)
    (h : 2 ≤ first.toList.length ∧
      first.toList.take 2 ≠ NodeHealth.selfMissing.toList.take 2) :
    first ++ rest ≠ NodeHealth.selfMissing := by
  intro heq
  apply h.right
  rw [← heq, String.toList_append, List.take_append_of_le_length h.left]

theorem ClusterError.message_ne_selfMissing (e : ClusterError) :
    e.message ≠ NodeHealth.selfMissing := by
  unfold ClusterError.message
  cases e with
  | query reason => exact ne_selfMissing_of_append reason (by decide)
  | register address reason =>
      dsimp only
      rw [String.append_assoc, String.append_assoc]
      exact ne_selfMissing_of_append _ (by decide)
  | connect address cause =>
      dsimp only
      rw [String.append_assoc, String.append_assoc]
      exact ne_selfMissing_of_append _ (by decide)
  | invalidAddress text =>
      dsimp only
      rw [String.append_assoc]
      exact ne_selfMissing_of_append _ (by decide)
  | connectionClosed address =>
      dsimp only
      rw [String.append_assoc]
      exact ne_selfMissing_of_append _ (by decide)
  | config reason => exact ne_selfMissing_of_append reason (by decide)

theorem NodeHealth.report_check_ne_selfMissing (peers : List Peer) :
    (check false peers).report ≠ .unhealthy selfMissing := by
  unfold check
  split
  · decide
  · split
    · exact HealthReport.noConfusion
    · split
      · rename_i here _ _
        intro h
        refine absurd (HealthReport.unhealthy.inj h) ?_
        unfold loopbackSelf
        rw [String.append_assoc]
        exact ne_selfMissing_of_append _ (by decide)
      · exact HealthReport.noConfusion

end Missing

namespace CoreModule

section SelfView

variable (settings : CoreSettings) (machineHost : String)

/-- What a node takes itself for: a receiver is nobody and does not miss itself, and in the lists of
the others the node is there exactly when the answer that the list comes from names its registered
address. -/
structure SelfView (c : Charge) : Prop where
  receiver : settings.role = .receiver ->
    (forall r n p, c.reconciler = some r -> r.directory.peer? n = some p -> p.isSelf = false) ∧
      Note.did (.health (.unhealthy NodeHealth.selfMissing)) ∉ c.notes
  registering : settings.role.registersSelf = true -> forall before since next,
    c.notes = before ++ Note.did (.published next) :: since ->
      exists r id queried, c.reconciler = some r ∧ LastTold before id queried ∧
        (r.directory.HasLocal next <->
          settings.registeredKey machineHost ∈ queried.map Address.key)

variable {settings machineHost} {c : Charge}

theorem selfView_of_kept (h : c.Kept (selfAddress? settings machineHost)
    (NodeHealth.check settings.role.registersSelf)) : SelfView settings machineHost c := by
  constructor
  · intro hrole
    have hregisters : settings.role.registersSelf = false := by
      rw [hrole]
      rfl
    have hnobody : selfAddress? settings machineHost = none := by
      unfold selfAddress?
      rw [hregisters]
      rfl
    rw [hnobody, hregisters] at h
    constructor
    · intro r n p hr hp
      by_contra hself
      cases (h.steady r hr).knows n p hp (by simpa using hself)
    · intro hmem
      cases hr : c.reconciler with
      | none => exact (h.unborn hr).right _ hmem
      | some r =>
          rcases (h.steady r hr).reports _ hmem with ⟨peers, hreport⟩ | ⟨e, hreport⟩
          · exact NodeHealth.report_check_ne_selfMissing peers hreport.symm
          · exact e.message_ne_selfMissing (HealthReport.unhealthy.inj hreport).symm
  · intro hregisters before since next hsplit
    have hself : selfAddress? settings machineHost =
        some (announcement settings machineHost) := if_pos hregisters
    rw [hself] at h
    cases hr : c.reconciler with
    | none =>
        exfalso
        apply (h.unborn hr).right (.published next)
        rw [hsplit]
        exact List.mem_append_right _ List.mem_cons_self
    | some r =>
        rcases (h.steady r hr).published before since next hsplit with
          ⟨id, queried, hlast, hlists⟩
        refine ⟨r, id, queried, rfl, hlast, ?_⟩
        rw [hlists.hasLocal_iff, ← key_announcement]
        simp

theorem kept_of_turnout {found : Except ModuleError Unit} {called : Prop}
    {result : Except ModuleError Unit}
    (h : Turnout settings machineHost found called result c) :
    c.Kept (selfAddress? settings machineHost)
      (NodeHealth.check settings.role.registersSelf) := by
  have hsteady : forall e, Note.did e ∉ (entered settings machineHost).notes := by
    intro e hmem
    unfold entered at hmem
    dsimp only at hmem
    split at hmem
    · cases List.mem_singleton.mp hmem
    · cases hmem
  have hentrant := steady_entrant settings machineHost hsteady
  cases h with
  | untouched _ => exact ⟨fun _ => ⟨rfl, fun _ => List.not_mem_nil⟩, fun _ h => nomatch h⟩
  | refused e _ _ _ _ =>
      refine ⟨fun _ => ⟨rfl, ?_⟩, fun _ h => nomatch h⟩
      intro effect hmem
      cases List.mem_singleton.mp hmem
  | entered _ _ => exact Charge.Kept.of_steady rfl hentrant
  | ticking works _ _ =>
      have hticking : (ticking settings machineHost).Kept (selfAddress? settings machineHost)
          (NodeHealth.check settings.role.registersSelf) := Charge.Kept.of_steady rfl hentrant
      exact hticking.after works

theorem eq_untouched_of_turnout {found : Except ModuleError Unit} {called : Prop}
    {result : Except ModuleError Unit}
    (h : Turnout settings machineHost found called result c) (hnot : ¬called) : c = untouched := by
  cases h with
  | untouched _ => rfl
  | refused _ hcalled _ _ _ => exact absurd hcalled hnot
  | entered hcalled _ => exact absurd hcalled hnot
  | ticking _ hcalled _ => exact absurd hcalled hnot

/-!
## Registrations
-/

theorem registrations_entered (settings : CoreSettings) (machineHost : String) :
    registrations (entered settings machineHost).notes =
      if settings.role.registersSelf then [(announcement settings machineHost, .ok ())]
      else [] := by
  unfold entered
  dsimp only
  split
  · rfl
  · rfl

theorem key_of_mem_registrations {found : Except ModuleError Unit} {called : Prop}
    {answered : Except ModuleError Unit} {c : Charge}
    (h : Turnout settings machineHost found called answered c)
    (hregisters : settings.role.registersSelf = true) (hcalled : called) (hfound : found = .ok ()) :
    exists answer, registrations c.notes = [(announcement settings machineHost, answer)] := by
  have hentered := registrations_entered settings machineHost
  rw [if_pos hregisters] at hentered
  cases h with
  | untouched hnot => exact absurd hfound (hnot hcalled)
  | refused e _ _ _ _ => exact ⟨.error e, rfl⟩
  | entered _ _ => exact ⟨.ok (), hentered⟩
  | ticking works _ _ => exact ⟨.ok (), (Charge.registrations_after _ works).trans hentered⟩

theorem registrations_eq_nil {found : Except ModuleError Unit} {called : Prop}
    {answered : Except ModuleError Unit} {c : Charge}
    (h : Turnout settings machineHost found called answered c)
    (hnot : settings.role = .receiver ∨ ¬called ∨ found ≠ .ok ()) :
    registrations c.notes = [] := by
  have hreceiver : called -> found = .ok () -> settings.role.registersSelf = false := by
    intro hcalled hfound
    rcases hnot with hrole | hnot | hnot
    · rw [hrole]
      rfl
    · exact absurd hcalled hnot
    · exact absurd hfound hnot
  have hentered := registrations_entered settings machineHost
  cases h with
  | untouched _ => rfl
  | refused e hcalled hfound hrole _ =>
      rw [hreceiver hcalled hfound] at hrole
      cases hrole
  | entered hcalled hfound =>
      rw [hentered, hreceiver hcalled hfound]
      rfl
  | ticking works hcalled hfound =>
      rw [Charge.registrations_after]
      show registrations (entered settings machineHost).notes = []
      rw [hentered, hreceiver hcalled hfound]
      rfl

theorem eq_refused_of_mem_registrations {found : Except ModuleError Unit} {called : Prop}
    {answered : Except ModuleError Unit} {c : Charge}
    (h : Turnout settings machineHost found called answered c) {target : Address}
    {e : ClusterError} (hmem : (target, Except.error e) ∈ registrations c.notes) :
    c = refused settings machineHost e ∧ target = announcement settings machineHost ∧
      answered = .error (.moduleStart moduleName "default" .start (registrationFailure e)) := by
  have hentered : (target, Except.error e) ∉
      registrations (entered settings machineHost).notes := by
    intro hmem
    rw [registrations_entered] at hmem
    split at hmem
    · cases (Prod.mk.inj (List.mem_singleton.mp hmem)).right
    · cases hmem
  cases h with
  | untouched _ => cases hmem
  | refused e' _ _ _ hanswered =>
      have hsame := Prod.mk.inj (List.mem_singleton.mp hmem)
      cases hsame.right
      exact ⟨rfl, hsame.left, hanswered⟩
  | entered _ _ => exact absurd hmem hentered
  | ticking works _ _ =>
      rw [Charge.registrations_after] at hmem
      exact absurd hmem hentered

end SelfView

end CoreModule

end ClusterNode
