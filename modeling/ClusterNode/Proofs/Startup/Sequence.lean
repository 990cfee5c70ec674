import ClusterNode.Proofs.Startup.Requirements

/-!
# The startup sequence

A sequence is sound when each module in it requires only modules before it. The passes build a sound
sequence; what they leave behind still requires something that is left behind, and so leads to a
cycle.
-/

namespace ClusterNode
namespace StartupOrder

/-- Each module requires only names that are done or come before it. -/
def Sequenced : List String -> List (ModuleNeeds × Nat) -> Prop
  | _, [] => True
  | done, (m, _) :: rest =>
      (forall r, r ∈ m.requires -> r ∈ done) ∧ Sequenced (m.name :: done) rest

def names (entries : List (ModuleNeeds × Nat)) : List String :=
  entries.map fun e => e.1.name

theorem Sequenced.mono {done done' : List String} {entries : List (ModuleNeeds × Nat)}
    (h : Sequenced done entries) (hsub : forall r, r ∈ done -> r ∈ done') :
    Sequenced done' entries := by
  induction entries generalizing done done' with
  | nil => exact True.intro
  | cons e rest ih =>
      constructor
      · intro r hr
        exact hsub r (h.left r hr)
      · apply ih h.right
        intro r hr
        rcases List.mem_cons.mp hr with rfl | hr
        · exact List.mem_cons_self
        · exact List.mem_cons_of_mem _ (hsub r hr)

theorem Sequenced.append {done : List String} {a b : List (ModuleNeeds × Nat)}
    (ha : Sequenced done a) (hb : Sequenced (names a ++ done) b) : Sequenced done (a ++ b) := by
  induction a generalizing done with
  | nil => exact hb
  | cons e rest ih =>
      constructor
      · exact ha.left
      · apply ih ha.right
        apply hb.mono
        intro r hr
        have hr' : r ∈ e.1.name :: (names rest ++ done) := hr
        rcases List.mem_cons.mp hr' with rfl | hr'
        · exact List.mem_append_right _ List.mem_cons_self
        · rcases List.mem_append.mp hr' with hrest | hdone
          · exact List.mem_append_left _ hrest
          · exact List.mem_append_right _ (List.mem_cons_of_mem _ hdone)

theorem Sequenced.mem_before {done : List String} {before after : List (ModuleNeeds × Nat)}
    {e : ModuleNeeds × Nat} (h : Sequenced done (before ++ e :: after)) {r : String}
    (hr : r ∈ e.1.requires) : r ∈ done ∨ r ∈ names before := by
  induction before generalizing done with
  | nil => exact Or.inl (h.left r hr)
  | cons first rest ih =>
      rcases ih h.right with hdone | hbefore
      · rcases List.mem_cons.mp hdone with rfl | hdone
        · exact Or.inr List.mem_cons_self
        · exact Or.inl hdone
      · exact Or.inr (List.mem_cons_of_mem _ hbefore)

/-!
## One pass
-/

theorem sequenced_pass (done : List String) (pending : List (ModuleNeeds × Nat)) :
    Sequenced done (pass done pending).taken := by
  induction pending generalizing done with
  | nil => exact True.intro
  | cons e rest ih =>
      rw [pass]
      split
      · rename_i hready
        constructor
        · intro r hr
          simpa using List.all_eq_true.mp hready r hr
        · exact ih (e.1.name :: done)
      · exact ih done

theorem sublist_left_pass (done : List String) (pending : List (ModuleNeeds × Nat)) :
    (pass done pending).left.Sublist pending := by
  induction pending generalizing done with
  | nil => exact List.Sublist.refl []
  | cons e rest ih =>
      rw [pass]
      split
      · exact (ih (e.1.name :: done)).cons e
      · exact (ih done).cons_cons e

theorem exists_unmet_of_taken_eq_nil {done : List String} {pending : List (ModuleNeeds × Nat)}
    (h : (pass done pending).taken = []) :
    forall e, e ∈ pending -> exists r, r ∈ e.1.requires ∧ r ∉ done := by
  induction pending with
  | nil =>
      intro e he
      cases he
  | cons first rest ih =>
      rw [pass] at h
      split at h
      · cases h
      · rename_i hunmet
        intro e he
        rcases List.mem_cons.mp he with rfl | he
        · simpa using hunmet
        · exact ih h e he

/-!
## All passes

What is pending in the end was passed over by all passes, the last of which took nothing.
-/

theorem sequence_ok {done : List String} {pending order : List (ModuleNeeds × Nat)}
    (h : sequence done pending = .ok order) : order.Perm pending ∧ Sequenced done order := by
  fun_induction sequence done pending generalizing order with
  | case1 done =>
      cases h
      exact ⟨List.Perm.refl [], True.intro⟩
  | case2 done pending _ result _ rest hrest =>
      rename_i ih
      cases h
      rcases ih hrest with ⟨hperm, hsequenced⟩
      constructor
      · exact (hperm.append_left _).trans (pass_perm done pending)
      · exact (sequenced_pass done pending).append hsequenced
  | case3 => cases h
  | case4 => cases h

theorem sequence_error {done : List String} {pending stuck : List (ModuleNeeds × Nat)}
    (h : sequence done pending = .error stuck) :
    stuck.Sublist pending ∧ stuck ≠ [] ∧
      exists taken, (taken ++ stuck).Perm pending ∧ Sequenced done taken ∧
        forall e, e ∈ stuck -> exists r, r ∈ e.1.requires ∧ r ∉ names taken ++ done := by
  fun_induction sequence done pending generalizing stuck with
  | case1 => cases h
  | case2 => cases h
  | case3 done pending _ result _ rest hrest =>
      rename_i ih
      cases h
      rcases ih hrest with ⟨hsublist, hsome, taken, hperm, hsequenced, hunmet⟩
      refine ⟨hsublist.trans (sublist_left_pass done pending), hsome,
        (pass done pending).taken ++ taken, ?_, ?_, ?_⟩
      · rw [List.append_assoc]
        exact (hperm.append_left _).trans (pass_perm done pending)
      · exact (sequenced_pass done pending).append hsequenced
      · intro e he
        rcases hunmet e he with ⟨r, hr, hnot⟩
        refine ⟨r, hr, ?_⟩
        intro hmem
        apply hnot
        simp only [names, List.map_append, List.mem_append] at hmem ⊢
        rcases hmem with (hpass | hrest') | hdone
        · exact Or.inr (Or.inl hpass)
        · exact Or.inl hrest'
        · exact Or.inr (Or.inr hdone)
  | case4 done pending hsome result =>
      rename_i hnone
      cases h
      have hleft : ¬(pass done pending).left.length < pending.length := hnone
      have hlength := pass_length done pending
      have htaken : (pass done pending).taken = [] := by
        apply List.eq_nil_of_length_eq_zero
        omega
      refine ⟨List.Sublist.refl pending, hsome, [], List.Perm.refl pending, True.intro, ?_⟩
      exact exists_unmet_of_taken_eq_nil htaken

/-!
## Cycles and sequences

What a sound sequence takes does not lead to a cycle.
-/

variable {modules : List ModuleNeeds}

theorem eq_of_name_eq (hdistinct : (modules.map ModuleNeeds.name).Nodup) {m k : ModuleNeeds}
    (hm : m ∈ modules) (hk : k ∈ modules) (hname : m.name = k.name) : m = k :=
  List.inj_on_of_nodup_map hdistinct hm hk hname

theorem requires_iff (hdistinct : (modules.map ModuleNeeds.name).Nodup) {m : ModuleNeeds}
    (hm : m ∈ modules) (r : String) : Requires modules m.name r <-> r ∈ m.requires := by
  constructor
  · intro ⟨k, hk, hname, hr⟩
    rw [eq_of_name_eq hdistinct hm hk hname.symm]
    exact hr
  · intro hr
    exact ⟨m, hm, rfl, hr⟩

theorem Sequenced.not_leadsToCycle (hdistinct : (modules.map ModuleNeeds.name).Nodup)
    {done : List String} {entries : List (ModuleNeeds × Nat)} (h : Sequenced done entries)
    (hmem : forall e, e ∈ entries -> e.1 ∈ modules)
    (hdone : forall r, r ∈ done -> ¬LeadsToCycle modules r) :
    forall e, e ∈ entries -> ¬LeadsToCycle modules e.1.name := by
  induction entries generalizing done with
  | nil =>
      intro e he
      cases he
  | cons first rest ih =>
      have hfirst : ¬LeadsToCycle modules first.1.name := by
        intro hcycle
        rcases hcycle.exists_requires with ⟨r, hrequires, hr⟩
        rw [requires_iff hdistinct (hmem first List.mem_cons_self)] at hrequires
        exact hdone r (h.left r hrequires) hr
      have hrest := ih h.right (fun e he => hmem e (List.mem_cons_of_mem first he)) (by
        intro r hr
        rcases List.mem_cons.mp hr with rfl | hr
        · exact hfirst
        · exact hdone r hr)
      intro e he
      rcases List.mem_cons.mp he with rfl | he
      · exact hfirst
      · exact hrest e he

theorem mem_modules_of_mem_zipIdx {e : ModuleNeeds × Nat} (he : e ∈ modules.zipIdx) :
    e.1 ∈ modules :=
  List.fst_mem_of_mem_zipIdx he

theorem exists_mem_zipIdx {m : ModuleNeeds} (hm : m ∈ modules) :
    exists n, (m, n) ∈ modules.zipIdx := by
  rcases List.mem_iff_getElem?.mp hm with ⟨n, hn⟩
  exact ⟨n, List.mk_mem_zipIdx_iff_getElem?.mpr hn⟩

theorem acyclic_of_sequence_ok (hdistinct : (modules.map ModuleNeeds.name).Nodup)
    {order : List (ModuleNeeds × Nat)} (h : sequence [] modules.zipIdx = .ok order) :
    Acyclic modules := by
  rcases sequence_ok h with ⟨hperm, hsequenced⟩
  intro name hcycle
  rcases hcycle.leadsToCycle.exists_requires with ⟨_, ⟨m, hm, hname, _⟩, _⟩
  rcases exists_mem_zipIdx hm with ⟨n, hn⟩
  have hnone := hsequenced.not_leadsToCycle hdistinct
    (fun e he => mem_modules_of_mem_zipIdx (hperm.mem_iff.mp he)) (by simp) _
    (hperm.mem_iff.mpr hn)
  rw [hname] at hnone
  exact hnone hcycle.leadsToCycle

/-- Exactly the modules that lead to a cycle are left behind. -/
theorem mem_stuck_iff (hdistinct : (modules.map ModuleNeeds.name).Nodup)
    (hloaded : AllLoaded modules) {stuck : List (ModuleNeeds × Nat)}
    (h : sequence [] modules.zipIdx = .error stuck) {e : ModuleNeeds × Nat}
    (he : e ∈ modules.zipIdx) : e ∈ stuck <-> LeadsToCycle modules e.1.name := by
  rcases sequence_error h with ⟨_, _, taken, hperm, hsequenced, hunmet⟩
  have hmem : forall e, e ∈ taken ++ stuck -> e.1 ∈ modules := by
    intro e he
    exact mem_modules_of_mem_zipIdx (hperm.mem_iff.mp he)
  constructor
  · intro hstuck
    have hnext : forall a, a ∈ names stuck ->
        exists b, b ∈ names stuck ∧ Requires modules a b := by
      intro a ha
      rcases List.mem_map.mp ha with ⟨s, hs, rfl⟩
      rcases hunmet s hs with ⟨r, hr, hnot⟩
      have hsmem := hmem s (List.mem_append_right _ hs)
      refine ⟨r, ?_, s.1, hsmem, rfl, hr⟩
      rcases List.mem_map.mp (hloaded s.1 hsmem r hr) with ⟨m, hm, rfl⟩
      rcases exists_mem_zipIdx hm with ⟨n, hn⟩
      rcases List.mem_append.mp (hperm.mem_iff.mpr hn) with htaken | hleft
      · have hname : m.name ∈ names taken := List.mem_map.mpr ⟨(m, n), htaken, rfl⟩
        exact absurd (List.mem_append_left _ hname) hnot
      · exact List.mem_map.mpr ⟨(m, n), hleft, rfl⟩
    exact leadsToCycle_of_closed hnext (List.mem_map.mpr ⟨e, hstuck, rfl⟩)
  · intro hcycle
    rcases List.mem_append.mp (hperm.mem_iff.mpr he) with htaken | hleft
    · have hnone := hsequenced.not_leadsToCycle hdistinct
        (fun e he => hmem e (List.mem_append_left _ he)) (by simp) e htaken
      exact absurd hcycle hnone
    · exact hleft

/-!
## Modules that are not loaded

The first requirement that is not loaded is found, in loading order and then as declared.
-/

theorem unloaded?_eq_none_iff (loaded : List String) (modules : List ModuleNeeds) :
    unloaded? loaded modules = none <->
      forall m, m ∈ modules -> forall r, r ∈ m.requires -> r ∈ loaded := by
  induction modules with
  | nil => simp [unloaded?]
  | cons first rest ih =>
      rw [unloaded?]
      cases hfind : first.requires.find? fun r => !loaded.contains r with
      | some required =>
          have hmem := List.mem_of_find?_eq_some hfind
          have hnot := List.find?_some hfind
          simp only [reduceCtorEq, false_iff]
          intro hall
          have hrequired := hall first List.mem_cons_self required hmem
          simp [hrequired] at hnot
      | none =>
          dsimp only
          rw [ih]
          rw [List.find?_eq_none] at hfind
          constructor
          · intro hrest m hm
            rcases List.mem_cons.mp hm with rfl | hm
            · intro r hr
              simpa using hfind r hr
            · exact hrest m hm
          · intro hall m hm
            exact hall m (List.mem_cons_of_mem first hm)

theorem unloaded?_eq_some {loaded : List String} {modules : List ModuleNeeds}
    {required : String} {m : ModuleNeeds} (h : unloaded? loaded modules = some (required, m)) :
    exists before after earlier later, modules = before ++ m :: after ∧
      m.requires = earlier ++ required :: later ∧
      (forall k, k ∈ before -> forall r, r ∈ k.requires -> r ∈ loaded) ∧
      (forall r, r ∈ earlier -> r ∈ loaded) ∧ required ∉ loaded := by
  induction modules with
  | nil => cases h
  | cons first rest ih =>
      rw [unloaded?] at h
      cases hfind : first.requires.find? fun r => !loaded.contains r with
      | some found =>
          rw [hfind] at h
          cases h
          rcases List.find?_eq_some_iff_append.mp hfind with ⟨hnot, earlier, later, hsplit, hall⟩
          refine ⟨[], rest, earlier, later, rfl, hsplit, by simp, ?_, ?_⟩
          · intro r hr
            simpa using hall r hr
          · simpa using hnot
      | none =>
          rw [hfind] at h
          rcases ih h with ⟨before, after, earlier, later, hrest, hsplit, hbefore, hearlier, hnot⟩
          refine ⟨first :: before, after, earlier, later, by rw [hrest]; rfl, hsplit, ?_,
            hearlier, hnot⟩
          rw [List.find?_eq_none] at hfind
          intro k hk
          rcases List.mem_cons.mp hk with rfl | hk
          · intro r hr
            simpa using hfind r hr
          · exact hbefore k hk

/-!
## The verdict
-/

theorem unloaded?_eq_none (hloaded : AllLoaded modules) :
    unloaded? (modules.map ModuleNeeds.name) modules = none :=
  (unloaded?_eq_none_iff (modules.map ModuleNeeds.name) modules).mpr hloaded

theorem compute_of_sequence_ok (hloaded : AllLoaded modules)
    {entries : List (ModuleNeeds × Nat)} (h : sequence [] modules.zipIdx = .ok entries) :
    compute modules = .ok (entries.map Prod.snd) := by
  simp only [compute, unloaded?_eq_none hloaded, h]

theorem compute_of_sequence_error (hloaded : AllLoaded modules)
    {stuck : List (ModuleNeeds × Nat)} (h : sequence [] modules.zipIdx = .error stuck) :
    compute modules = .error (cycleError (stuck.map Prod.fst)) := by
  simp only [compute, unloaded?_eq_none hloaded, h]

theorem compute_of_not_allLoaded (hloaded : ¬AllLoaded modules) :
    exists before m after earlier required later, modules = before ++ m :: after ∧
      m.requires = earlier ++ required :: later ∧
      (forall k, k ∈ before -> forall r, r ∈ k.requires -> r ∈ modules.map ModuleNeeds.name) ∧
      (forall r, r ∈ earlier -> r ∈ modules.map ModuleNeeds.name) ∧
      required ∉ modules.map ModuleNeeds.name ∧
      compute modules =
        .error (.requiredModuleNotFound required (m.name ++ "." ++ m.provider)) := by
  cases hunloaded : unloaded? (modules.map ModuleNeeds.name) modules with
  | none =>
      exact absurd ((unloaded?_eq_none_iff _ modules).mp hunloaded) hloaded
  | some found =>
      rcases found with ⟨required, m⟩
      rcases unloaded?_eq_some hunloaded with
        ⟨before, after, earlier, later, hmodules, hsplit, hbefore, hearlier, hnot⟩
      refine ⟨before, m, after, earlier, required, later, hmodules, hsplit, hbefore, hearlier,
        hnot, ?_⟩
      unfold compute
      rw [hunloaded]
      rfl

theorem exists_sequence_of_compute_ok {order : List Nat} (h : compute modules = .ok order) :
    AllLoaded modules ∧
      exists entries, sequence [] modules.zipIdx = .ok entries ∧ order = entries.map Prod.snd := by
  by_cases hloaded : AllLoaded modules
  · refine ⟨hloaded, ?_⟩
    cases hsequence : sequence [] modules.zipIdx with
    | ok entries =>
        rw [compute_of_sequence_ok hloaded hsequence] at h
        cases h
        exact ⟨entries, rfl, rfl⟩
    | error stuck =>
        rw [compute_of_sequence_error hloaded hsequence] at h
        cases h
  · rcases compute_of_not_allLoaded hloaded with ⟨_, _, _, _, _, _, _, _, _, _, _, herror⟩
    rw [herror] at h
    cases h

theorem compute_isOk_iff (hdistinct : (modules.map ModuleNeeds.name).Nodup) :
    (exists order, compute modules = .ok order) <-> AllLoaded modules ∧ Acyclic modules := by
  constructor
  · intro ⟨order, horder⟩
    rcases exists_sequence_of_compute_ok horder with ⟨hloaded, entries, hentries, _⟩
    exact ⟨hloaded, acyclic_of_sequence_ok hdistinct hentries⟩
  · intro ⟨hloaded, hacyclic⟩
    cases hsequence : sequence [] modules.zipIdx with
    | ok entries => exact ⟨entries.map Prod.snd, compute_of_sequence_ok hloaded hsequence⟩
    | error stuck =>
        exfalso
        rcases sequence_error hsequence with ⟨hsublist, hsome, _⟩
        rcases List.exists_mem_of_ne_nil stuck hsome with ⟨e, he⟩
        rcases (mem_stuck_iff hdistinct hloaded hsequence (hsublist.subset he)).mp he with
          ⟨other, _, hcycle⟩
        exact hacyclic other hcycle

theorem idxOf_lt_idxOf {before after : List Nat} {i j : Nat}
    (hnodup : (before ++ i :: after).Nodup) (hj : j ∈ before) :
    (before ++ i :: after).idxOf j < (before ++ i :: after).idxOf i := by
  have hi : i ∉ before := by
    intro hmem
    exact List.disjoint_of_nodup_append hnodup hmem List.mem_cons_self
  rw [List.idxOf_append_of_mem hj, List.idxOf_append_of_notMem hi, List.idxOf_cons_self]
  exact List.idxOf_lt_length_iff.mpr hj

theorem order_of_compute_ok (hdistinct : (modules.map ModuleNeeds.name).Nodup)
    {order : List Nat} (h : compute modules = .ok order) :
    order.Perm (List.range modules.length) ∧
      forall i j m k, modules[i]? = some m -> modules[j]? = some k -> k.name ∈ m.requires ->
        order.idxOf j < order.idxOf i := by
  rcases exists_sequence_of_compute_ok h with ⟨_, entries, hentries, rfl⟩
  rcases sequence_ok hentries with ⟨hperm, hsequenced⟩
  have hrange : (entries.map Prod.snd).Perm (List.range modules.length) := by
    have hsnd := hperm.map Prod.snd
    rwa [List.zipIdx_map_snd, ← List.range_eq_range'] at hsnd
  refine ⟨hrange, ?_⟩
  intro i j m k hm hk hrequires
  have hentry : (m, i) ∈ entries :=
    hperm.mem_iff.mpr (List.mk_mem_zipIdx_iff_getElem?.mpr hm)
  rcases List.append_of_mem hentry with ⟨before, after, rfl⟩
  have hbefore : k.name ∈ names before :=
    (hsequenced.mem_before hrequires).resolve_left (by simp)
  rcases List.mem_map.mp hbefore with ⟨⟨k', j'⟩, hk', hname⟩
  have hj' : modules[j']? = some k' := by
    have hmem := hperm.mem_iff.mp (List.mem_append_left _ hk')
    exact List.mk_mem_zipIdx_iff_getElem?.mp hmem
  have hj : j' = j := by
    have hsame : (modules.map ModuleNeeds.name)[j']? = (modules.map ModuleNeeds.name)[j]? := by
      rw [List.getElem?_map, List.getElem?_map, hj', hk]
      exact congrArg some hname
    have hlt : j' < (modules.map ModuleNeeds.name).length := by
      rw [List.length_map]
      exact (List.getElem?_eq_some_iff.mp hj').1
    exact (List.getElem?_inj hlt hdistinct).mp hsame
  subst hj
  have hnodup := hrange.nodup_iff.mpr List.nodup_range
  rw [List.map_append, List.map_cons] at hnodup ⊢
  exact idxOf_lt_idxOf hnodup (List.mem_map.mpr ⟨(k', j'), hk', rfl⟩)

/-- There is an order exactly when everything required is loaded and there is no cycle. It is sound,
and what is not loaded is reported before any cycle. -/
theorem startup_verdict (hdistinct : (modules.map ModuleNeeds.name).Nodup) :
    ((exists order, compute modules = .ok order) <-> AllLoaded modules ∧ Acyclic modules) ∧
      (forall order, compute modules = .ok order -> order.Perm (List.range modules.length) ∧
        forall i j m k, modules[i]? = some m -> modules[j]? = some k -> k.name ∈ m.requires ->
          order.idxOf j < order.idxOf i) ∧
      (¬AllLoaded modules -> exists before m after earlier required later,
        modules = before ++ m :: after ∧ m.requires = earlier ++ required :: later ∧
          (forall k, k ∈ before -> forall r, r ∈ k.requires ->
            r ∈ modules.map ModuleNeeds.name) ∧
          (forall r, r ∈ earlier -> r ∈ modules.map ModuleNeeds.name) ∧
          required ∉ modules.map ModuleNeeds.name ∧
          compute modules =
            .error (.requiredModuleNotFound required (m.name ++ "." ++ m.provider))) := by
  refine ⟨compute_isOk_iff hdistinct, ?_, compute_of_not_allLoaded⟩
  intro order horder
  exact order_of_compute_ok hdistinct horder

def storageOnCore : List ModuleNeeds :=
  [{ name := "storage", provider := "memory", requires := ["core"] },
    { name := "core", provider := "default", requires := [] }]

/-- The module that is loaded last starts first. -/
theorem startup_verdict_of_storageOnCore :
    (storageOnCore.map ModuleNeeds.name).Nodup ∧
      ((exists order, compute storageOnCore = .ok order) <->
        AllLoaded storageOnCore ∧ Acyclic storageOnCore) ∧
      (forall order, compute storageOnCore = .ok order ->
        order.Perm (List.range storageOnCore.length) ∧
          forall i j m k, storageOnCore[i]? = some m -> storageOnCore[j]? = some k ->
            k.name ∈ m.requires -> order.idxOf j < order.idxOf i) ∧
      (¬AllLoaded storageOnCore -> exists before m after earlier required later,
        storageOnCore = before ++ m :: after ∧ m.requires = earlier ++ required :: later ∧
          (forall k, k ∈ before -> forall r, r ∈ k.requires ->
            r ∈ storageOnCore.map ModuleNeeds.name) ∧
          (forall r, r ∈ earlier -> r ∈ storageOnCore.map ModuleNeeds.name) ∧
          required ∉ storageOnCore.map ModuleNeeds.name ∧
          compute storageOnCore =
            .error (.requiredModuleNotFound required (m.name ++ "." ++ m.provider))) := by
  have hdistinct : (storageOnCore.map ModuleNeeds.name).Nodup := by decide
  exact ⟨hdistinct, startup_verdict hdistinct⟩

end StartupOrder
end ClusterNode
