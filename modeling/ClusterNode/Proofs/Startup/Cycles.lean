import ClusterNode.Proofs.Startup.Sequence

/-!
# The diagnosis of cycles

The search finds exactly the names that lead back to themselves. Among the modules that the passes
leave behind it tells those on a cycle from those that wait for one, and neither kind depends on the
loading order.
-/

namespace ClusterNode
namespace StartupOrder

open Relation

/-- The modules on a cycle, in loading order. -/
noncomputable def cycleMembers (modules : List ModuleNeeds) : List ModuleNeeds := by
  classical
  exact modules.filter fun m => OnCycle modules m.name

/-- The modules that wait for a cycle without being on one, in loading order. -/
noncomputable def cycleWaiters (modules : List ModuleNeeds) : List ModuleNeeds := by
  classical
  exact modules.filter fun m => WaitsForCycle modules m.name

theorem mem_cycleMembers_iff (modules : List ModuleNeeds) (m : ModuleNeeds) :
    m ∈ cycleMembers modules <-> m ∈ modules ∧ OnCycle modules m.name := by
  classical
  unfold cycleMembers
  rw [List.mem_filter, decide_eq_true_eq]

/-!
## The search

What the search finds can be reached from its stack, and a search in vain ends with a set of names
that no requirement leaves. On the way to a loaded name all names are loaded.
-/

section Search

variable {modules : List ModuleNeeds} {goal : String}

theorem mem_of_named_eq_some {name : String} {m : ModuleNeeds}
    (h : named modules name = some m) : m ∈ modules ∧ m.name = name := by
  constructor
  · exact List.mem_of_find?_eq_some h
  · simpa using List.find?_some h

theorem notMem_of_named_eq_none {name : String} (h : named modules name = none) :
    name ∉ modules.map ModuleNeeds.name := by
  intro hmem
  rcases List.mem_map.mp hmem with ⟨m, hm, rfl⟩
  have hnot := List.find?_eq_none.mp h m hm
  simp at hnot

theorem mem_names_of_requires {a b : String} (h : Requires modules a b) :
    a ∈ modules.map ModuleNeeds.name := by
  rcases h with ⟨m, hm, rfl, _⟩
  exact List.mem_map.mpr ⟨m, hm, rfl⟩

theorem exists_of_search_eq_true {seen stack : List String}
    (h : search modules goal seen stack = true) :
    exists x, x ∈ stack ∧ ReflTransGen (Requires modules) x goal := by
  fun_induction search modules goal seen stack with
  | case1 => cases h
  | case2 => exact ⟨goal, List.mem_cons_self, ReflTransGen.refl⟩
  | case3 seen name stack _ _ ih =>
      rcases ih h with ⟨x, hx, hreaches⟩
      exact ⟨x, List.mem_cons_of_mem name hx, hreaches⟩
  | case4 seen name stack _ _ _ ih =>
      rcases ih h with ⟨x, hx, hreaches⟩
      exact ⟨x, List.mem_cons_of_mem name hx, hreaches⟩
  | case5 seen name stack _ _ m hnamed ih =>
      rcases ih h with ⟨x, hx, hreaches⟩
      rcases List.mem_append.mp hx with hrequired | hstack
      · rcases mem_of_named_eq_some hnamed with ⟨hm, hname⟩
        have hstep : Requires modules name x := ⟨m, hm, hname, List.mem_reverse.mp hrequired⟩
        exact ⟨name, List.mem_cons_self, hreaches.head hstep⟩
      · exact ⟨x, List.mem_cons_of_mem name hstack, hreaches⟩

/-- The invariant of the search: what a visited name requires is visited or on the stack, where it
is loaded. With an empty stack no requirement leads out of the visited names. -/
def Frontier (modules : List ModuleNeeds) (seen stack : List String) : Prop :=
  forall a, a ∈ seen -> forall b, Requires modules a b -> b ∈ modules.map ModuleNeeds.name ->
    b ∈ seen ∨ b ∈ stack

theorem Frontier.pop {name : String} {seen stack : List String}
    (h : Frontier modules seen (name :: stack))
    (hname : name ∈ modules.map ModuleNeeds.name -> name ∈ seen) :
    Frontier modules seen stack := by
  intro a ha b hab hb
  rcases h a ha b hab hb with hold | hstack
  · exact Or.inl hold
  · rcases List.mem_cons.mp hstack with rfl | hstack
    · exact Or.inl (hname hb)
    · exact Or.inr hstack

theorem Frontier.push (hdistinct : (modules.map ModuleNeeds.name).Nodup) {m : ModuleNeeds}
    (hm : m ∈ modules) {seen stack : List String} (h : Frontier modules seen (m.name :: stack)) :
    Frontier modules (m.name :: seen) (m.requires.reverse ++ stack) := by
  intro a ha b hab hb
  rcases List.mem_cons.mp ha with rfl | ha
  · have hrequired := (requires_iff hdistinct hm b).mp hab
    exact Or.inr (List.mem_append_left _ (List.mem_reverse.mpr hrequired))
  · rcases h a ha b hab hb with hold | hstack
    · exact Or.inl (List.mem_cons_of_mem _ hold)
    · rcases List.mem_cons.mp hstack with rfl | hstack
      · exact Or.inl List.mem_cons_self
      · exact Or.inr (List.mem_append_right _ hstack)

/-- A search in vain ends with a set of names that no requirement leaves. -/
theorem exists_visited_of_search_eq_false (hdistinct : (modules.map ModuleNeeds.name).Nodup)
    {seen stack : List String} (h : search modules goal seen stack = false)
    (hgoal : goal ∉ seen) (hfrontier : Frontier modules seen stack) :
    exists visited : List String, goal ∉ visited ∧ Frontier modules visited [] ∧
      (forall a, a ∈ seen -> a ∈ visited) ∧
      forall a, a ∈ stack -> a ∈ modules.map ModuleNeeds.name -> a ∈ visited := by
  fun_induction search modules goal seen stack with
  | case1 seen => exact ⟨seen, hgoal, hfrontier, fun a ha => ha, by simp⟩
  | case2 => cases h
  | case3 seen name stack _ hname ih =>
      rcases ih h hgoal (hfrontier.pop fun _ => hname) with ⟨visited, hnot, hclosed, hsub, hstack⟩
      refine ⟨visited, hnot, hclosed, hsub, ?_⟩
      intro a ha hloaded
      rcases List.mem_cons.mp ha with rfl | ha
      · exact hsub a hname
      · exact hstack a ha hloaded
  | case4 seen name stack _ _ hnamed ih =>
      have hunloaded := notMem_of_named_eq_none hnamed
      rcases ih h hgoal (hfrontier.pop fun hloaded => absurd hloaded hunloaded) with
        ⟨visited, hnot, hclosed, hsub, hstack⟩
      refine ⟨visited, hnot, hclosed, hsub, ?_⟩
      intro a ha hloaded
      rcases List.mem_cons.mp ha with rfl | ha
      · exact absurd hloaded hunloaded
      · exact hstack a ha hloaded
  | case5 seen name stack hne _ m hnamed ih =>
      rcases mem_of_named_eq_some hnamed with ⟨hm, rfl⟩
      have hgoal' : goal ∉ m.name :: seen := by
        intro hmem
        rcases List.mem_cons.mp hmem with heq | hmem
        · exact hne heq.symm
        · exact hgoal hmem
      rcases ih h hgoal' (hfrontier.push hdistinct hm) with
        ⟨visited, hnot, hclosed, hsub, hstack⟩
      refine ⟨visited, hnot, hclosed, ?_, ?_⟩
      · intro a ha
        exact hsub a (List.mem_cons_of_mem _ ha)
      · intro a ha hloaded
        rcases List.mem_cons.mp ha with rfl | ha
        · exact hsub _ List.mem_cons_self
        · exact hstack a (List.mem_append_right _ ha) hloaded

theorem mem_of_reaches_of_frontier {visited : List String}
    (hclosed : Frontier modules visited []) (hgoal : goal ∈ modules.map ModuleNeeds.name)
    {a : String} (h : ReflTransGen (Requires modules) a goal) :
    a ∈ modules.map ModuleNeeds.name ∧ (a ∈ visited -> goal ∈ visited) := by
  induction h using ReflTransGen.head_induction_on with
  | refl => exact ⟨hgoal, id⟩
  | head hab _ ih =>
      refine ⟨mem_names_of_requires hab, ?_⟩
      intro ha
      rcases hclosed _ ha _ hab ih.left with hvisited | hnone
      · exact ih.right hvisited
      · cases hnone

theorem search_iff (hdistinct : (modules.map ModuleNeeds.name).Nodup)
    (hgoal : goal ∈ modules.map ModuleNeeds.name) (stack : List String) :
    search modules goal [] stack = true <->
      exists x, x ∈ stack ∧ ReflTransGen (Requires modules) x goal := by
  constructor
  · exact exists_of_search_eq_true
  · intro ⟨x, hx, hreaches⟩
    by_contra hfalse
    rw [Bool.not_eq_true] at hfalse
    have hfrontier : Frontier modules [] stack := by
      intro a ha
      cases ha
    rcases exists_visited_of_search_eq_false hdistinct hfalse (by simp) hfrontier with
      ⟨visited, hnot, hclosed, _, hstack⟩
    rcases mem_of_reaches_of_frontier hclosed hgoal hreaches with ⟨hloaded, hmem⟩
    exact hnot (hmem (hstack x hx hloaded))

theorem onCycle_iff (hdistinct : (modules.map ModuleNeeds.name).Nodup) {m : ModuleNeeds}
    (hm : m ∈ modules) : onCycle modules m = true <-> OnCycle modules m.name := by
  unfold onCycle
  rw [search_iff hdistinct (List.mem_map.mpr ⟨m, hm, rfl⟩)]
  constructor
  · intro ⟨x, hx, hreaches⟩
    exact TransGen.head' ((requires_iff hdistinct hm x).mpr (List.mem_reverse.mp hx)) hreaches
  · intro hcycle
    rcases TransGen.head'_iff.mp hcycle with ⟨x, hx, hreaches⟩
    exact ⟨x, List.mem_reverse.mpr ((requires_iff hdistinct hm x).mp hx), hreaches⟩

end Search

/-!
## Modules left behind

The way to a cycle stays among the modules that lead to one. The search among the modules left
behind finds the members of cycles, and the others wait.
-/

variable {modules pending : List ModuleNeeds}

theorem LeadsToCycle.of_reaches {a b : String} (hab : Reaches modules a b)
    (h : LeadsToCycle modules b) : LeadsToCycle modules a := by
  rcases h with ⟨other, hother, hcycle⟩
  exact ⟨other, hab.trans hother, hcycle⟩

theorem reaches_of_leadsToCycle
    (hpending : forall m, m ∈ modules -> LeadsToCycle modules m.name -> m ∈ pending)
    {a b : String} (h : Reaches modules a b) (hb : LeadsToCycle modules b) :
    Reaches pending a b := by
  have hstep : forall x y, Requires modules x y -> LeadsToCycle modules y ->
      Requires pending x y := by
    intro x y hxy hy
    have hx := LeadsToCycle.of_requires hxy hy
    rcases hxy with ⟨m, hm, rfl, hrequired⟩
    exact ⟨m, hpending m hm hx, rfl, hrequired⟩
  induction h using TransGen.head_induction_on with
  | single hab => exact TransGen.single (hstep _ _ hab hb)
  | head hac hcb ih => exact ih.head (hstep _ _ hac (LeadsToCycle.of_reaches hcb hb))

theorem onCycle_pending_iff (hsub : forall m, m ∈ pending -> m ∈ modules)
    (hpending : forall m, m ∈ modules -> LeadsToCycle modules m.name -> m ∈ pending)
    (name : String) : OnCycle pending name <-> OnCycle modules name := by
  constructor
  · intro h
    have hstep : forall a b, Requires pending a b -> Requires modules a b := by
      intro a b ⟨m, hm, hname, hrequired⟩
      exact ⟨m, hsub m hm, hname, hrequired⟩
    exact TransGen.mono hstep name name h
  · intro h
    exact reaches_of_leadsToCycle hpending h h.leadsToCycle

theorem eq_filter_of_sublist {α : Type} {xs ys : List α} {test : α -> Bool}
    (h : xs.Sublist ys) (hnodup : ys.Nodup)
    (hmem : forall y, y ∈ ys -> (y ∈ xs <-> test y = true)) : xs = ys.filter test := by
  have hperm : xs.Perm (ys.filter test) := by
    rw [List.perm_ext_iff_of_nodup (hnodup.sublist h) (hnodup.filter test)]
    intro y
    rw [List.mem_filter]
    constructor
    · intro hy
      exact ⟨h.subset hy, (hmem y (h.subset hy)).mp hy⟩
    · intro ⟨hy, htest⟩
      exact (hmem y hy).mpr htest
  have hsublist : xs.Sublist (ys.filter test) := by
    have hfilter := h.filter test
    rwa [List.filter_eq_self.mpr fun y hy => (hmem y (h.subset hy)).mp hy] at hfilter
  exact hsublist.eq_of_length hperm.length_eq

theorem exists_stuck (hdistinct : (modules.map ModuleNeeds.name).Nodup)
    (hloaded : AllLoaded modules) (hcycle : ¬Acyclic modules) :
    exists pending, compute modules = .error (cycleError pending) ∧ pending.Sublist modules ∧
      forall m, m ∈ modules -> (m ∈ pending <-> LeadsToCycle modules m.name) := by
  cases hsequence : sequence [] modules.zipIdx with
  | ok order => exact absurd (acyclic_of_sequence_ok hdistinct hsequence) hcycle
  | error stuck =>
      rcases sequence_error hsequence with ⟨hsublist, _⟩
      refine ⟨stuck.map Prod.fst, ?_, ?_, ?_⟩
      · exact compute_of_sequence_error hloaded hsequence
      · have hmap := hsublist.map Prod.fst
        rwa [List.zipIdx_map_fst] at hmap
      · intro m hm
        constructor
        · intro hstuck
          rcases List.mem_map.mp hstuck with ⟨e, he, rfl⟩
          exact (mem_stuck_iff hdistinct hloaded hsequence (hsublist.subset he)).mp he
        · intro hleads
          rcases exists_mem_zipIdx hm with ⟨n, hn⟩
          exact List.mem_map.mpr
            ⟨(m, n), (mem_stuck_iff hdistinct hloaded hsequence hn).mpr hleads, rfl⟩

theorem nodup_of_distinct (hdistinct : (modules.map ModuleNeeds.name).Nodup) : modules.Nodup :=
  List.Nodup.of_map ModuleNeeds.name hdistinct

theorem cycleError_eq (hdistinct : (modules.map ModuleNeeds.name).Nodup)
    (hsublist : pending.Sublist modules)
    (hmem : forall m, m ∈ modules -> (m ∈ pending <-> LeadsToCycle modules m.name)) :
    cycleError pending =
      .cycleDependency ((cycleMembers modules).map ModuleNeeds.describe)
        ((cycleWaiters modules).map ModuleNeeds.describe) := by
  have hnodup := nodup_of_distinct hdistinct
  have hdistinct' : (pending.map ModuleNeeds.name).Nodup :=
    hdistinct.sublist (hsublist.map ModuleNeeds.name)
  have hcycle : forall m, m ∈ pending ->
      (onCycle pending m = true <-> OnCycle modules m.name) := by
    intro m hm
    rw [onCycle_iff hdistinct' hm]
    exact onCycle_pending_iff (fun k hk => hsublist.subset hk)
      (fun k hk hleads => (hmem k hk).mpr hleads) m.name
  have hmembers : pending.filter (onCycle pending) = cycleMembers modules := by
    classical
    apply eq_filter_of_sublist (List.filter_sublist.trans hsublist) hnodup
    intro m hm
    rw [List.mem_filter, decide_eq_true_eq]
    constructor
    · intro ⟨hpending, hfound⟩
      exact (hcycle m hpending).mp hfound
    · intro hon
      have hpending := (hmem m hm).mpr hon.leadsToCycle
      exact ⟨hpending, (hcycle m hpending).mpr hon⟩
  have hwaiters : pending.filter (fun m => !onCycle pending m) = cycleWaiters modules := by
    classical
    apply eq_filter_of_sublist (List.filter_sublist.trans hsublist) hnodup
    intro m hm
    rw [List.mem_filter, decide_eq_true_eq, Bool.not_eq_true', ← Bool.not_eq_true]
    constructor
    · intro ⟨hpending, hmissed⟩
      exact ⟨fun hon => hmissed ((hcycle m hpending).mpr hon), (hmem m hm).mp hpending⟩
    · intro ⟨hnot, hleads⟩
      have hpending := (hmem m hm).mpr hleads
      exact ⟨hpending, fun hfound => hnot ((hcycle m hpending).mp hfound)⟩
  unfold cycleError
  rw [List.partition_eq_filter_filter]
  show ModuleError.cycleDependency ((pending.filter (onCycle pending)).map _)
    ((pending.filter fun m => !onCycle pending m).map _) = _
  rw [hmembers, hwaiters]

/-!
## The error
-/

theorem cycleMembers_ne_nil (hcycle : ¬Acyclic modules) : cycleMembers modules ≠ [] := by
  rcases not_forall_not.mp hcycle with ⟨name, hon⟩
  rcases TransGen.head'_iff.mp hon with ⟨_, ⟨m, hm, rfl, _⟩, _⟩
  exact List.ne_nil_of_mem ((mem_cycleMembers_iff modules m).mpr ⟨hm, hon⟩)

theorem compute_of_cycle (hdistinct : (modules.map ModuleNeeds.name).Nodup)
    (hloaded : AllLoaded modules) (hcycle : ¬Acyclic modules) :
    compute modules =
      .error (.cycleDependency ((cycleMembers modules).map ModuleNeeds.describe)
        ((cycleWaiters modules).map ModuleNeeds.describe)) := by
  rcases exists_stuck hdistinct hloaded hcycle with ⟨pending, hcompute, hsublist, hmem⟩
  rw [hcompute, cycleError_eq hdistinct hsublist hmem]

/-- A cycle is reported with all modules on cycles and all that wait for one, and both sets are the
same for every loading order. -/
theorem cycle_diagnosis (hdistinct : (modules.map ModuleNeeds.name).Nodup)
    (hloaded : AllLoaded modules) (hcycle : ¬Acyclic modules) :
    compute modules =
        .error (.cycleDependency ((cycleMembers modules).map ModuleNeeds.describe)
          ((cycleWaiters modules).map ModuleNeeds.describe)) ∧
      cycleMembers modules ≠ [] ∧
      forall modules' : List ModuleNeeds, modules'.Perm modules ->
        compute modules' =
            .error (.cycleDependency ((cycleMembers modules').map ModuleNeeds.describe)
              ((cycleWaiters modules').map ModuleNeeds.describe)) ∧
          (cycleMembers modules').Perm (cycleMembers modules) ∧
          (cycleWaiters modules').Perm (cycleWaiters modules) := by
  refine ⟨compute_of_cycle hdistinct hloaded hcycle, cycleMembers_ne_nil hcycle, ?_⟩
  intro modules' hperm
  have hrequires := requires_congr hperm
  have hon : OnCycle modules' = OnCycle modules := by
    unfold OnCycle Reaches
    rw [hrequires]
  have hwaits : WaitsForCycle modules' = WaitsForCycle modules := by
    unfold WaitsForCycle LeadsToCycle Reaches
    rw [hrequires, hon]
  have hnames := hperm.map ModuleNeeds.name
  refine ⟨?_, ?_, ?_⟩
  · apply compute_of_cycle (hnames.nodup_iff.mpr hdistinct)
    · intro m hm r hr
      exact hnames.mem_iff.mpr (hloaded m (hperm.mem_iff.mp hm) r hr)
    · unfold Acyclic
      rw [hon]
      exact hcycle
  · unfold cycleMembers
    rw [hon]
    exact hperm.filter _
  · unfold cycleWaiters
    rw [hwaits]
    exact hperm.filter _

def ringWithTail : List ModuleNeeds :=
  [{ name := "alarm", provider := "default", requires := ["query"] },
    { name := "query", provider := "default", requires := ["storage"] },
    { name := "storage", provider := "memory", requires := ["query"] },
    { name := "core", provider := "default", requires := [] }]

theorem not_acyclic_ringWithTail : ¬Acyclic ringWithTail := by
  intro hacyclic
  have hquery : Requires ringWithTail "query" "storage" :=
    ⟨{ name := "query", provider := "default", requires := ["storage"] }, by decide, rfl, by decide⟩
  have hstorage : Requires ringWithTail "storage" "query" :=
    ⟨{ name := "storage", provider := "memory", requires := ["query"] }, by decide, rfl, by decide⟩
  exact hacyclic "query" (TransGen.head hquery (TransGen.single hstorage))

/-- Two modules require each other, one waits for them, and one starts. -/
theorem cycle_diagnosis_of_ringWithTail :
    (ringWithTail.map ModuleNeeds.name).Nodup ∧ AllLoaded ringWithTail ∧
      ¬Acyclic ringWithTail ∧
      compute ringWithTail =
        .error (.cycleDependency ((cycleMembers ringWithTail).map ModuleNeeds.describe)
          ((cycleWaiters ringWithTail).map ModuleNeeds.describe)) ∧
      cycleMembers ringWithTail ≠ [] ∧
      forall modules' : List ModuleNeeds, modules'.Perm ringWithTail ->
        compute modules' =
            .error (.cycleDependency ((cycleMembers modules').map ModuleNeeds.describe)
              ((cycleWaiters modules').map ModuleNeeds.describe)) ∧
          (cycleMembers modules').Perm (cycleMembers ringWithTail) ∧
          (cycleWaiters modules').Perm (cycleWaiters ringWithTail) := by
  have hdistinct : (ringWithTail.map ModuleNeeds.name).Nodup := by decide
  have hloaded : AllLoaded ringWithTail := by
    unfold AllLoaded
    decide
  exact ⟨hdistinct, hloaded, not_acyclic_ringWithTail,
    cycle_diagnosis hdistinct hloaded not_acyclic_ringWithTail⟩

end StartupOrder
end ClusterNode
