import ClusterNode.Proofs.Startup.Sequence
import Mathlib.Data.List.Sort

/-!
# The passes behind the startup order

A module is taken in the first pass that finds all its requirements taken. What it requires may be
taken in the same pass if it is loaded before it, and has to be taken in an earlier pass if it is
loaded after it. So the number of the pass of each module follows from the requirements and the
loading order alone, and the startup order is the loading order sorted by these numbers.
-/

namespace ClusterNode
namespace StartupOrder

def greatest (least : Nat) (numbers : List Nat) : Nat := numbers.max?.getD least

def position (modules : List ModuleNeeds) (name : String) : Nat :=
  (modules.map ModuleNeeds.name).idxOf name

def passAfter (modules : List ModuleNeeds) (number : Nat -> Nat) (i : Nat) (required : String) :
    Nat :=
  if i < position modules required then number (position modules required) + 1
  else number (position modules required)

/-- The numbers of the passes: one for a module that requires nothing, and otherwise that of the
earliest pass that all requirements admit. -/
def PassNumbers (modules : List ModuleNeeds) (number : Nat -> Nat) : Prop :=
  forall i m, modules[i]? = some m ->
    number i = greatest 1 (m.requires.map (passAfter modules number i))

def numberWithin (modules : List ModuleNeeds) : Nat -> Nat -> Nat
  | 0, _ => 1
  | steps + 1, i =>
      match modules[i]? with
      | none => 1
      | some m => greatest 1 (m.requires.map (passAfter modules (numberWithin modules steps) i))

/-- The number of the pass in which a module is taken. As many steps as there are modules are
enough if there is no cycle. -/
def passNumber (modules : List ModuleNeeds) (i : Nat) : Nat :=
  numberWithin modules modules.length i

def Precedes (number : Nat -> Nat) (i j : Nat) : Prop :=
  number i < number j ∨ number i = number j ∧ i ≤ j

instance (number : Nat -> Nat) (i j : Nat) : Decidable (Precedes number i j) :=
  inferInstanceAs (Decidable (number i < number j ∨ number i = number j ∧ i ≤ j))

def byPass (number : Nat -> Nat) (count : Nat) : List Nat :=
  (List.range count).mergeSort fun i j => decide (Precedes number i j)

def passes (done : List String) (pending : List (ModuleNeeds × Nat)) : List PassResult :=
  match pending with
  | [] => []
  | pending =>
      let result := pass done pending
      if result.left.length < pending.length then
        result :: passes (names result.taken ++ done) result.left
      else [result]
termination_by pending.length

def round (modules : List ModuleNeeds) (number : Nat -> Nat) (k : Nat) : PassResult where
  taken := modules.zipIdx.filter fun e => decide (number e.2 = k)
  left := modules.zipIdx.filter fun e => decide (k < number e.2)

def LoadedInOrder (modules : List ModuleNeeds) : Prop :=
  forall (i j : Nat) (m k : ModuleNeeds), modules[i]? = some m -> modules[j]? = some k ->
    k.name ∈ m.requires -> j < i

/-!
## Greatest numbers
-/

theorem greatest_le_iff {least bound : Nat} (hleast : least ≤ bound) (numbers : List Nat) :
    greatest least numbers ≤ bound <-> forall x, x ∈ numbers -> x ≤ bound := by
  unfold greatest
  cases hmax : numbers.max? with
  | none =>
      rw [List.max?_eq_none_iff.mp hmax]
      simpa using hleast
  | some x => exact List.max?_le_iff hmax

theorem le_greatest_of_mem {x : Nat} {numbers : List Nat} (hx : x ∈ numbers) (least : Nat) :
    x ≤ greatest least numbers := by
  unfold greatest
  cases hmax : numbers.max? with
  | none =>
      rw [List.max?_eq_none_iff.mp hmax] at hx
      cases hx
  | some y => exact (List.max?_le_iff hmax).mp (Nat.le_refl y) x hx

theorem le_greatest {least : Nat} {numbers : List Nat} (h : forall x, x ∈ numbers -> least ≤ x) :
    least ≤ greatest least numbers := by
  cases numbers with
  | nil => exact Nat.le_refl least
  | cons x rest =>
      exact Nat.le_trans (h x List.mem_cons_self) (le_greatest_of_mem List.mem_cons_self least)

/-!
## The loop and its passes

The loop ends with what its passes have taken, or with what the last one has left.
-/

theorem passes_ne_nil {done : List String} {pending : List (ModuleNeeds × Nat)}
    (h : pending ≠ []) : passes done pending ≠ [] := by
  rw [passes]
  · split
    · exact List.cons_ne_nil _ _
    · exact List.cons_ne_nil _ _
  · exact h

theorem passes_of_taken {done : List String} {pending : List (ModuleNeeds × Nat)}
    (h : (pass done pending).taken ≠ []) :
    passes done pending = pass done pending ::
      passes (names (pass done pending).taken ++ done) (pass done pending).left := by
  have hsome : pending ≠ [] := by
    rintro rfl
    exact h rfl
  have hlength := pass_length done pending
  have htaken := List.length_pos_iff.mpr h
  rw [passes]
  · exact if_pos (by omega)
  · exact hsome

theorem sequence_of_progress {done : List String} {pending : List (ModuleNeeds × Nat)}
    (hsome : pending ≠ []) (hprogress : (pass done pending).left.length < pending.length) :
    sequence done pending =
      (sequence (names (pass done pending).taken ++ done) (pass done pending).left).map
        ((pass done pending).taken ++ ·) := by
  rw [sequence]
  · rw [if_pos hprogress, names]
    cases sequence ((pass done pending).taken.map (·.1.name) ++ done) (pass done pending).left with
    | ok rest => rfl
    | error stuck => rfl
  · exact hsome

theorem sequence_eq_passes (done : List String) (pending : List (ModuleNeeds × Nat)) :
    sequence done pending =
      match (passes done pending).getLast? with
      | none => .ok []
      | some last =>
          if last.left.isEmpty then .ok ((passes done pending).flatMap PassResult.taken)
          else .error last.left := by
  fun_induction passes done pending with
  | case1 => rw [sequence]; rfl
  | case2 done pending hsome result hprogress ih =>
      have hloop : sequence done pending =
          (sequence (names result.taken ++ done) result.left).map (result.taken ++ ·) :=
        sequence_of_progress hsome hprogress
      rw [hloop, ih]
      cases hlast : (passes (names result.taken ++ done) result.left).getLast? with
      | none =>
          have hnone := List.getLast?_eq_none_iff.mp hlast
          have hleft : result.left = [] := by
            by_contra hleft
            exact passes_ne_nil hleft hnone
          rw [hnone]
          simp [hleft, Except.map]
      | some last =>
          rw [List.getLast?_cons, hlast, Option.getD_some, List.flatMap_cons]
          cases hdone : last.left.isEmpty with
          | true => simp [hdone, Except.map]
          | false => simp [hdone, Except.map]
  | case3 done pending hsome result hstuck =>
      have hleft : result.left = pending :=
        (sublist_left_pass done pending).eq_of_length_le (Nat.le_of_not_lt hstuck)
      have hloop : sequence done pending = .error pending := by
        rw [sequence]
        · exact if_neg hstuck
        · exact hsome
      have hempty : result.left.isEmpty = false := by
        rw [hleft]
        exact List.isEmpty_eq_false_iff.mpr hsome
      rw [hloop, List.getLast?_singleton]
      show _ = if result.left.isEmpty then _ else Except.error result.left
      rw [hempty, hleft]
      rfl

/-!
## Positions

A module is deeper than what it requires, and the place in a startup order is such a depth.
-/

section Numbers

variable {modules before rest : List ModuleNeeds} {m : ModuleNeeds} {number number' : Nat -> Nat}
  {depth : Nat -> Nat} {done : List String} {order : List Nat} {i k : Nat} {name : String}

theorem exists_getElem?_position (hname : name ∈ modules.map ModuleNeeds.name) :
    exists m, modules[position modules name]? = some m ∧ m.name = name := by
  have hlt := List.idxOf_lt_length_iff.mpr hname
  have hget := List.getElem_idxOf hlt
  rw [List.length_map] at hlt
  refine ⟨modules[position modules name], List.getElem?_eq_getElem hlt, ?_⟩
  rw [List.getElem_map] at hget
  exact hget

theorem position_eq_iff (hdistinct : (modules.map ModuleNeeds.name).Nodup)
    (hm : modules[i]? = some m) (hname : name ∈ modules.map ModuleNeeds.name) :
    position modules name = i <-> m.name = name := by
  rcases exists_getElem?_position hname with ⟨k, hk, rfl⟩
  constructor
  · rintro rfl
    rw [hm] at hk
    rw [Option.some.inj hk]
  · intro hsame
    have hlt : position modules k.name < (modules.map ModuleNeeds.name).length :=
      List.idxOf_lt_length_iff.mpr hname
    apply (List.getElem?_inj hlt hdistinct).mp
    rw [List.getElem?_map, List.getElem?_map, hk, hm, Option.map_some, Option.map_some, hsame]

def Descends (modules : List ModuleNeeds) (depth : Nat -> Nat) : Prop :=
  forall i m, modules[i]? = some m -> forall r, r ∈ m.requires ->
    depth (position modules r) < depth i

theorem exists_descends (hdistinct : (modules.map ModuleNeeds.name).Nodup)
    (hloaded : AllLoaded modules) (hacyclic : Acyclic modules) :
    exists depth, Descends modules depth ∧ forall i, i < modules.length ->
      depth i < modules.length := by
  rcases (compute_isOk_iff hdistinct).mpr ⟨hloaded, hacyclic⟩ with ⟨order, horder⟩
  rcases order_of_compute_ok hdistinct horder with ⟨hperm, hbefore⟩
  refine ⟨fun i => order.idxOf i, ?_, ?_⟩
  · intro i m hm r hr
    rcases exists_getElem?_position (hloaded m (List.mem_of_getElem? hm) r hr) with
      ⟨k, hk, rfl⟩
    exact hbefore i _ m k hm hk hr
  · intro i hi
    have hlength : order.length = modules.length := by
      rw [hperm.length_eq, List.length_range]
    have hmem : i ∈ order := hperm.mem_iff.mpr (List.mem_range.mpr hi)
    rw [← hlength]
    exact List.idxOf_lt_length_iff.mpr hmem

/-!
## The numbers of the passes

The requirements determine the numbers, and below the number of a module no number is missing. To
find the numbers in steps, as many are enough as the deepest module has.
-/

theorem passAfter_congr (h : number (position modules name) = number' (position modules name))
    (i : Nat) : passAfter modules number i name = passAfter modules number' i name := by
  unfold passAfter
  rw [h]

theorem passAfter_le_iff (hne : position modules name ≠ i) :
    passAfter modules number i name ≤ k <->
      number (position modules name) < k ∨
        number (position modules name) = k ∧ position modules name < i := by
  unfold passAfter
  split
  · omega
  · omega

theorem greatest_congr (h : forall r, r ∈ m.requires ->
    number (position modules r) = number' (position modules r)) (i : Nat) :
    greatest 1 (m.requires.map (passAfter modules number i)) =
      greatest 1 (m.requires.map (passAfter modules number' i)) := by
  have hmap : m.requires.map (passAfter modules number i) =
      m.requires.map (passAfter modules number' i) :=
    List.map_congr_left fun r hr => passAfter_congr (h r hr) i
  rw [hmap]

theorem numberWithin_eq (hdepth : Descends modules depth) {steps steps' : Nat}
    (h : depth i < steps) (h' : depth i < steps') :
    numberWithin modules steps i = numberWithin modules steps' i := by
  induction steps generalizing i steps' with
  | zero => exact absurd h (Nat.not_lt_zero _)
  | succ steps ih =>
      cases steps' with
      | zero => exact absurd h' (Nat.not_lt_zero _)
      | succ steps' =>
          unfold numberWithin
          cases hm : modules[i]? with
          | none => rfl
          | some m =>
              apply greatest_congr
              intro r hr
              have hlt := hdepth i m hm r hr
              exact ih (by omega) (by omega)

theorem passNumbers_passNumber (hdepth : Descends modules depth)
    (hbound : forall i, i < modules.length -> depth i < modules.length) :
    PassNumbers modules (passNumber modules) := by
  intro i m hm
  have hi := (List.getElem?_eq_some_iff.mp hm).1
  rcases Nat.exists_eq_add_of_lt (Nat.zero_lt_of_lt hi) with ⟨steps, hsteps⟩
  have hstart : passNumber modules i =
      greatest 1 (m.requires.map (passAfter modules (numberWithin modules steps) i)) := by
    rw [passNumber, hsteps, Nat.zero_add, numberWithin, hm]
  rw [hstart]
  apply greatest_congr
  intro r hr
  have hlt := hdepth i m hm r hr
  have hlast := hbound i hi
  exact numberWithin_eq hdepth (by omega) (by omega)

/-- The requirements determine the numbers. -/
theorem PassNumbers.eq (hdepth : Descends modules depth) (hloaded : AllLoaded modules)
    (h : PassNumbers modules number) (h' : PassNumbers modules number')
    (hi : i < modules.length) : number i = number' i := by
  induction hd : depth i using Nat.strongRecOn generalizing i with
  | _ d ih =>
      have hm := List.getElem?_eq_getElem hi
      rw [h i _ hm, h' i _ hm]
      apply greatest_congr
      intro r hr
      have hrequired := hloaded _ (List.getElem_mem hi) r hr
      rcases exists_getElem?_position hrequired with ⟨k, hk, _⟩
      have hlt := hdepth i _ hm r hr
      exact ih _ (hd ▸ hlt) (List.getElem?_eq_some_iff.mp hk).1 rfl

theorem PassNumbers.one_le (hdepth : Descends modules depth) (hloaded : AllLoaded modules)
    (h : PassNumbers modules number) (hi : i < modules.length) : 1 ≤ number i := by
  induction hd : depth i using Nat.strongRecOn generalizing i with
  | _ d ih =>
      have hm := List.getElem?_eq_getElem hi
      rw [h i _ hm]
      apply le_greatest
      intro x hx
      rcases List.mem_map.mp hx with ⟨r, hr, rfl⟩
      have hrequired := hloaded _ (List.getElem_mem hi) r hr
      rcases exists_getElem?_position hrequired with ⟨k, hk, _⟩
      have hlt := hdepth i _ hm r hr
      have hone := ih _ (hd ▸ hlt) (List.getElem?_eq_some_iff.mp hk).1 rfl
      unfold passAfter
      split
      · omega
      · exact hone

/-- Below the number of a module no number is missing. -/
theorem PassNumbers.exists_eq (hdepth : Descends modules depth) (hloaded : AllLoaded modules)
    (h : PassNumbers modules number) (hk : 1 ≤ k) (hi : i < modules.length)
    (hle : k ≤ number i) : exists j, j < modules.length ∧ number j = k := by
  induction hd : depth i using Nat.strongRecOn generalizing i with
  | _ d ih =>
      rcases Nat.eq_or_lt_of_le hle with heq | hlt
      · exact ⟨i, hi, heq.symm⟩
      · have hm := List.getElem?_eq_getElem hi
        have hsome : exists r, r ∈ modules[i].requires ∧ k < passAfter modules number i r := by
          by_contra hnone
          have hall : greatest 1 (modules[i].requires.map (passAfter modules number i)) ≤ k := by
            rw [greatest_le_iff hk]
            intro x hx
            rcases List.mem_map.mp hx with ⟨r, hr, rfl⟩
            by_contra hmore
            exact hnone ⟨r, hr, Nat.lt_of_not_le hmore⟩
          rw [← h i _ hm] at hall
          omega
        rcases hsome with ⟨r, hr, hmore⟩
        have hrequired := hloaded _ (List.getElem_mem hi) r hr
        rcases exists_getElem?_position hrequired with ⟨_, hposition, _⟩
        have hdeeper := hdepth i _ hm r hr
        have hle' : k ≤ number (position modules r) := by
          unfold passAfter at hmore
          split at hmore
          · omega
          · omega
        exact ih _ (hd ▸ hdeeper) (List.getElem?_eq_some_iff.mp hposition).1 hle' rfl

/-!
## One pass

The pass `k` takes a module if its number is not greater. The induction is on the modules that the
pass has yet to look at.
-/

/-- What is done when the pass `k` comes to the module with the loading number `n`. -/
def Reached (modules : List ModuleNeeds) (number : Nat -> Nat) (k n : Nat) (done : List String) :
    Prop :=
  forall r, r ∈ modules.map ModuleNeeds.name ->
    (r ∈ done <-> number (position modules r) < k ∨
      number (position modules r) = k ∧ position modules r < n)

theorem Reached.skip (h : Reached modules number k i done) (hne : number i ≠ k) :
    Reached modules number k (i + 1) done := by
  intro r hr
  rw [h r hr]
  have hother : number (position modules r) = k -> position modules r ≠ i := by
    intro heq hi
    rw [hi] at heq
    exact hne heq
  omega

theorem Reached.take (hdistinct : (modules.map ModuleNeeds.name).Nodup)
    (h : Reached modules number k i done) (hm : modules[i]? = some m) (heq : number i = k) :
    Reached modules number k (i + 1) (m.name :: done) := by
  intro r hr
  have hhere : r = m.name <-> position modules r = i := by
    rw [position_eq_iff hdistinct hm hr, eq_comm]
  have hnumber : position modules r = i -> number (position modules r) = k := by
    intro hi
    rw [hi]
    exact heq
  rw [List.mem_cons, h r hr, hhere]
  omega

theorem ready_iff (hdepth : Descends modules depth) (hloaded : AllLoaded modules)
    (hnumbers : PassNumbers modules number) (hk : 1 ≤ k) (hm : modules[i]? = some m)
    (hreached : Reached modules number k i done) :
    m.requires.all done.contains = true <-> number i ≤ k := by
  rw [hnumbers i m hm, greatest_le_iff hk, List.forall_mem_map, List.all_eq_true]
  apply forall_congr'
  intro r
  apply imp_congr_right
  intro hr
  have hne : position modules r ≠ i := by
    intro heq
    have hlt := hdepth i m hm r hr
    rw [heq] at hlt
    exact Nat.lt_irrefl _ hlt
  rw [List.contains_iff_mem, hreached r (hloaded m (List.mem_of_getElem? hm) r hr),
    passAfter_le_iff hne]

theorem pass_filter (hdistinct : (modules.map ModuleNeeds.name).Nodup)
    (hdepth : Descends modules depth) (hloaded : AllLoaded modules)
    (hnumbers : PassNumbers modules number) (hk : 1 ≤ k) (hsplit : modules = before ++ rest)
    (hreached : Reached modules number k before.length done) :
    pass done ((rest.zipIdx before.length).filter fun e => decide (k ≤ number e.2)) =
      { taken := (rest.zipIdx before.length).filter fun e => decide (number e.2 = k)
        left := (rest.zipIdx before.length).filter fun e => decide (k < number e.2) } := by
  induction rest generalizing before done with
  | nil => rfl
  | cons m rest ih =>
      have hm : modules[before.length]? = some m := by
        rw [hsplit, List.getElem?_append_right (Nat.le_refl _), Nat.sub_self]
        rfl
      have hsplit' : modules = (before ++ [m]) ++ rest := by
        rw [hsplit, List.append_assoc]
        rfl
      have hlength : (before ++ [m]).length = before.length + 1 := List.length_append
      have hready := ready_iff hdepth hloaded hnumbers hk hm hreached
      have hrest := fun done => @ih (before ++ [m]) done hsplit'
      rw [hlength] at hrest
      rw [List.zipIdx_cons, List.filter_cons, List.filter_cons, List.filter_cons]
      rcases Nat.lt_trichotomy (number before.length) k with hlt | heq | hgt
      · rw [if_neg (by simp [hlt]), if_neg (by simp [Nat.ne_of_lt hlt]),
          if_neg (by simp [Nat.le_of_lt hlt])]
        exact hrest done (hreached.skip (Nat.ne_of_lt hlt))
      · have htaken := hrest (m.name :: done) (hreached.take hdistinct hm heq)
        rw [if_pos (by simp [heq]), if_pos (by simp [heq]), if_neg (by simp [heq]), pass,
          if_pos (hready.mpr (Nat.le_of_eq heq)), htaken]
      · have hleft := hrest done (hreached.skip (Nat.ne_of_gt hgt))
        rw [if_pos (by simp [Nat.le_of_lt hgt]), if_neg (by simp [Nat.ne_of_gt hgt]),
          if_pos (by simp [hgt]), pass, if_neg (by rw [hready]; exact Nat.not_le_of_lt hgt), hleft]

/-!
## All passes

Up to the greatest number each pass has something to take. The induction is on how many passes are
still to come.
-/

theorem Reached.next (hdistinct : (modules.map ModuleNeeds.name).Nodup)
    (h : Reached modules number k 0 done) :
    Reached modules number (k + 1) 0 (names (round modules number k).taken ++ done) := by
  intro r hr
  have htaken : r ∈ names (round modules number k).taken <-> number (position modules r) = k := by
    constructor
    · intro hmem
      rcases List.mem_map.mp hmem with ⟨⟨m, i⟩, he, rfl⟩
      rcases List.mem_filter.mp he with ⟨hentry, hnumber⟩
      have hm : modules[i]? = some m := List.mk_mem_zipIdx_iff_getElem?.mp hentry
      rw [(position_eq_iff hdistinct hm hr).mpr rfl]
      exact of_decide_eq_true hnumber
    · intro hnumber
      rcases exists_getElem?_position hr with ⟨m, hm, rfl⟩
      apply List.mem_map.mpr
      refine ⟨(m, position modules m.name), List.mem_filter.mpr ⟨?_, decide_eq_true hnumber⟩, rfl⟩
      exact List.mk_mem_zipIdx_iff_getElem?.mpr hm
  rw [List.mem_append, htaken, h r hr]
  omega

theorem PassNumbers.round_taken_ne_nil (h : PassNumbers modules number)
    (hdepth : Descends modules depth) (hloaded : AllLoaded modules) (hk : 1 ≤ k)
    (hle : k ≤ greatest 0 ((List.range modules.length).map number)) :
    (round modules number k).taken ≠ [] := by
  have hlater : exists i, i < modules.length ∧ k ≤ number i := by
    by_contra hnone
    have htop : greatest 0 ((List.range modules.length).map number) ≤ k - 1 := by
      rw [greatest_le_iff (Nat.zero_le _), List.forall_mem_map]
      intro i hi
      by_contra hmore
      exact hnone ⟨i, List.mem_range.mp hi, by omega⟩
    omega
  rcases hlater with ⟨i, hi, hafter⟩
  rcases h.exists_eq hdepth hloaded hk hi hafter with ⟨j, hj, hnumber⟩
  have hentry : (modules[j], j) ∈ (round modules number k).taken := by
    apply List.mem_filter.mpr
    refine ⟨List.mk_mem_zipIdx_iff_getElem?.mpr (List.getElem?_eq_getElem hj), ?_⟩
    exact decide_eq_true hnumber
  exact List.ne_nil_of_mem hentry

/-- Each pass takes the modules with its number. The induction is on how many passes are still to
come. -/
theorem passes_filter (hdistinct : (modules.map ModuleNeeds.name).Nodup)
    (hdepth : Descends modules depth) (hloaded : AllLoaded modules)
    (hnumbers : PassNumbers modules number) (hk : 1 ≤ k) {count : Nat}
    (hcount : k + count = greatest 0 ((List.range modules.length).map number) + 1)
    (hreached : Reached modules number k 0 done) :
    passes done (modules.zipIdx.filter fun e => decide (k ≤ number e.2)) =
      (List.range' k count).map (round modules number) := by
  induction count generalizing k done with
  | zero =>
      have hnone : modules.zipIdx.filter (fun e => decide (k ≤ number e.2)) = [] := by
        rw [List.filter_eq_nil_iff]
        intro e he
        have hlt : e.2 < modules.length :=
          (List.getElem?_eq_some_iff.mp (List.mk_mem_zipIdx_iff_getElem?.mp he)).1
        have htop := le_greatest_of_mem
          (List.mem_map.mpr ⟨e.2, List.mem_range.mpr hlt, rfl⟩ :
            number e.2 ∈ (List.range modules.length).map number) 0
        rw [decide_eq_true_eq]
        omega
      rw [hnone, passes]
      rfl
  | succ count ih =>
      have hpass : pass done (modules.zipIdx.filter fun e => decide (k ≤ number e.2)) =
          round modules number k :=
        pass_filter hdistinct hdepth hloaded hnumbers hk (List.nil_append modules).symm hreached
      have htaken : (pass done
          (modules.zipIdx.filter fun e => decide (k ≤ number e.2))).taken ≠ [] := by
        rw [hpass]
        exact hnumbers.round_taken_ne_nil hdepth hloaded hk (by omega)
      rw [passes_of_taken htaken, hpass, List.range'_succ, List.map_cons]
      exact congrArg _ (ih (by omega) (by omega) (hreached.next hdistinct))

theorem passes_eq (hdistinct : (modules.map ModuleNeeds.name).Nodup)
    (hdepth : Descends modules depth) (hloaded : AllLoaded modules)
    (hnumbers : PassNumbers modules number) :
    passes [] modules.zipIdx =
      (List.range' 1 (greatest 0 ((List.range modules.length).map number))).map
        (round modules number) := by
  have hone : forall r, r ∈ modules.map ModuleNeeds.name ->
      1 ≤ number (position modules r) := by
    intro r hr
    rcases exists_getElem?_position hr with ⟨_, hm, _⟩
    exact hnumbers.one_le hdepth hloaded (List.getElem?_eq_some_iff.mp hm).1
  have hreached : Reached modules number 1 0 [] := by
    intro r hr
    have hr' := hone r hr
    constructor
    · intro hmem
      cases hmem
    · intro hearly
      omega
  have hall : modules.zipIdx.filter (fun e => decide (1 ≤ number e.2)) = modules.zipIdx := by
    rw [List.filter_eq_self]
    intro e he
    have hlt : e.2 < modules.length :=
      (List.getElem?_eq_some_iff.mp (List.mk_mem_zipIdx_iff_getElem?.mp he)).1
    exact decide_eq_true (hnumbers.one_le hdepth hloaded hlt)
  have hpasses := passes_filter hdistinct hdepth hloaded hnumbers (Nat.le_refl 1)
    (Nat.add_comm 1 _) hreached
  rw [hall] at hpasses
  exact hpasses

/-!
## The order by passes
-/

theorem Precedes.trans {i j k : Nat} (h : Precedes number i j) (h' : Precedes number j k) :
    Precedes number i k := by
  unfold Precedes at h h' ⊢
  omega

theorem Precedes.antisymm {i j : Nat} (h : Precedes number i j) (h' : Precedes number j i) :
    i = j := by
  unfold Precedes at h h'
  omega

theorem precedes_total (number : Nat -> Nat) (i j : Nat) :
    Precedes number i j ∨ Precedes number j i := by
  unfold Precedes
  omega

theorem eq_byPass {count : Nat} (hperm : order.Perm (List.range count))
    (hsorted : order.Pairwise (Precedes number)) : order = byPass number count := by
  have hsort : (byPass number count).Perm (List.range count) := List.mergeSort_perm _ _
  have hpairwise : (byPass number count).Pairwise (Precedes number) := by
    apply (List.pairwise_mergeSort ?_ ?_ (List.range count)).imp
    · exact of_decide_eq_true
    · intro a b c hab hbc
      exact decide_eq_true ((of_decide_eq_true hab).trans (of_decide_eq_true hbc))
    · intro a b
      rw [Bool.or_eq_true, decide_eq_true_eq, decide_eq_true_eq]
      exact precedes_total number a b
  exact (hperm.trans hsort.symm).eq_of_pairwise
    (fun _ _ _ _ hab hba => hab.antisymm hba) hsorted hpairwise

theorem pairwise_rounds (modules : List ModuleNeeds) (number : Nat -> Nat) (ks : List Nat)
    (hks : ks.Pairwise (· < ·)) :
    ((ks.map (round modules number)).flatMap PassResult.taken).Pairwise
      fun e f => Precedes number e.2 f.2 := by
  rw [List.flatMap_map, List.pairwise_flatMap]
  constructor
  · intro k _
    have hindices : modules.zipIdx.Pairwise fun e f => e.2 < f.2 := by
      rw [← List.pairwise_map (f := Prod.snd), List.zipIdx_map_snd]
      exact List.pairwise_lt_range'
    have hsub := hindices.sublist
      (List.filter_sublist (p := fun e : ModuleNeeds × Nat => decide (number e.2 = k)))
    apply hsub.imp_of_mem
    intro e f he hf hlt
    have hnumber := of_decide_eq_true (List.mem_filter.mp he).2
    have hnumber' := of_decide_eq_true (List.mem_filter.mp hf).2
    exact Or.inr ⟨hnumber.trans hnumber'.symm, Nat.le_of_lt hlt⟩
  · apply hks.imp
    intro k k' hlt e he f hf
    have hnumber := of_decide_eq_true (List.mem_filter.mp he).2
    have hnumber' := of_decide_eq_true (List.mem_filter.mp hf).2
    exact Or.inl (by omega)

theorem sequence_eq_ok (hdistinct : (modules.map ModuleNeeds.name).Nodup)
    (hloaded : AllLoaded modules) (hacyclic : Acyclic modules) :
    sequence [] modules.zipIdx = .ok ((passes [] modules.zipIdx).flatMap PassResult.taken) := by
  rcases (compute_isOk_iff hdistinct).mpr ⟨hloaded, hacyclic⟩ with ⟨order, horder⟩
  rcases exists_sequence_of_compute_ok horder with ⟨_, entries, hentries, _⟩
  have hloop := sequence_eq_passes [] modules.zipIdx
  rw [hentries] at hloop
  rw [hentries]
  cases hlast : (passes [] modules.zipIdx).getLast? with
  | none =>
      rw [hlast] at hloop
      rw [List.getLast?_eq_none_iff.mp hlast]
      exact hloop
  | some last =>
      rw [hlast] at hloop
      dsimp only at hloop
      split at hloop
      · exact hloop
      · cases hloop

theorem compute_eq_byPass (hdistinct : (modules.map ModuleNeeds.name).Nodup)
    (hdepth : Descends modules depth) (hloaded : AllLoaded modules) (hacyclic : Acyclic modules)
    (hnumbers : PassNumbers modules number) :
    compute modules = .ok (byPass number modules.length) := by
  have hsequence := sequence_eq_ok hdistinct hloaded hacyclic
  have hcompute := compute_of_sequence_ok hloaded hsequence
  rw [hcompute]
  apply congrArg Except.ok
  apply eq_byPass (order_of_compute_ok hdistinct hcompute).left
  rw [List.pairwise_map, passes_eq hdistinct hdepth hloaded hnumbers]
  exact pairwise_rounds modules number _ List.pairwise_lt_range'

/-!
## Modules loaded in order
-/

theorem number_eq_one (hdepth : Descends modules depth) (hloaded : AllLoaded modules)
    (hnumbers : PassNumbers modules number) (hinOrder : LoadedInOrder modules)
    (hi : i < modules.length) : number i = 1 := by
  induction i using Nat.strongRecOn with
  | _ i ih =>
      have hm := List.getElem?_eq_getElem hi
      have hone := hnumbers.one_le hdepth hloaded hi
      apply Nat.le_antisymm _ hone
      rw [hnumbers i _ hm, greatest_le_iff (Nat.le_refl 1)]
      intro x hx
      rcases List.mem_map.mp hx with ⟨r, hr, rfl⟩
      rcases exists_getElem?_position (hloaded _ (List.getElem_mem hi) r hr) with ⟨k, hk, hname⟩
      have hlt := hinOrder i _ _ k hm hk (hname ▸ hr)
      have hbefore := ih _ hlt (List.getElem?_eq_some_iff.mp hk).1
      unfold passAfter
      rw [if_neg (by omega), hbefore]

theorem byPass_eq_range {count : Nat} (h : forall i, i < count -> number i = 1) :
    byPass number count = List.range count := by
  symm
  apply eq_byPass (List.Perm.refl _)
  apply List.pairwise_lt_range.imp_of_mem
  intro i j hi hj hlt
  have hnumber := (h i (List.mem_range.mp hi)).trans (h j (List.mem_range.mp hj)).symm
  exact Or.inr ⟨hnumber, Nat.le_of_lt hlt⟩

theorem compute_of_loadedInOrder (hdistinct : (modules.map ModuleNeeds.name).Nodup)
    (hloaded : AllLoaded modules) (hacyclic : Acyclic modules)
    (hinOrder : LoadedInOrder modules) : compute modules = .ok (List.range modules.length) := by
  rcases exists_descends hdistinct hloaded hacyclic with ⟨depth, hdepth, hbound⟩
  have hnumbers := passNumbers_passNumber hdepth hbound
  rw [compute_eq_byPass hdistinct hdepth hloaded hacyclic hnumbers]
  exact congrArg Except.ok
    (byPass_eq_range fun i hi => number_eq_one hdepth hloaded hnumbers hinOrder hi)

theorem loadedInOrder_of_sequenced {entries : List (ModuleNeeds × Nat)}
    (hdistinct : (names entries).Nodup) (h : Sequenced [] entries) :
    LoadedInOrder (entries.map Prod.fst) := by
  intro i j m k hm hk hrequires
  rw [List.getElem?_map] at hm hk
  rcases Option.map_eq_some_iff.mp hm with ⟨e, he, rfl⟩
  rcases Option.map_eq_some_iff.mp hk with ⟨f, hf, rfl⟩
  have hsplit : entries = entries.take i ++ e :: entries.drop (i + 1) := by
    rw [← (List.getElem?_eq_some_iff.mp he).2]
    simp
  rw [hsplit] at h
  have hbefore : f.1.name ∈ names (entries.take i) :=
    (h.mem_before hrequires).resolve_left (by simp)
  rcases List.mem_iff_getElem?.mp hbefore with ⟨j', hj'⟩
  have hlt : j' < i := by
    have hlength := (List.getElem?_eq_some_iff.mp hj').1
    rw [names, List.length_map, List.length_take] at hlength
    omega
  have hname : (names entries)[j']? = some f.1.name := by
    rw [names, List.map_take, List.getElem?_take, if_pos hlt] at hj'
    exact hj'
  have hname' : (names entries)[j]? = some f.1.name := by
    rw [names, List.getElem?_map, hf]
    rfl
  have hsame : j' = j :=
    (List.getElem?_inj (List.getElem?_eq_some_iff.mp hname).1 hdistinct).mp
      (hname.trans hname'.symm)
  omega

theorem compute_of_computed (hdistinct : (modules.map ModuleNeeds.name).Nodup)
    (hloaded : AllLoaded modules) (hacyclic : Acyclic modules)
    (horder : compute modules = .ok order) :
    compute (order.filterMap (modules[·]?)) = .ok (List.range modules.length) := by
  rcases exists_sequence_of_compute_ok horder with ⟨_, entries, hentries, rfl⟩
  rcases sequence_ok hentries with ⟨hperm, hsequenced⟩
  have hagain : (entries.map Prod.snd).filterMap (modules[·]?) = entries.map Prod.fst := by
    rw [List.filterMap_map, ← List.filterMap_eq_map]
    apply List.filterMap_congr
    intro e he
    exact List.mk_mem_zipIdx_iff_getElem?.mp (hperm.mem_iff.mp he)
  have hmodules : (entries.map Prod.fst).Perm modules := by
    have hfst := hperm.map Prod.fst
    rwa [List.zipIdx_map_fst] at hfst
  have hnames := hmodules.map ModuleNeeds.name
  have hdistinct' : ((entries.map Prod.fst).map ModuleNeeds.name).Nodup :=
    hnames.nodup_iff.mpr hdistinct
  have hloaded' : AllLoaded (entries.map Prod.fst) := by
    intro m hm r hr
    exact hnames.mem_iff.mpr (hloaded m (hmodules.mem_iff.mp hm) r hr)
  have hacyclic' : Acyclic (entries.map Prod.fst) := by
    unfold Acyclic OnCycle Reaches
    rw [requires_congr hmodules]
    exact hacyclic
  have hinOrder : LoadedInOrder (entries.map Prod.fst) := by
    apply loadedInOrder_of_sequenced _ hsequenced
    rw [List.map_map] at hdistinct'
    exact hdistinct'
  rw [hagain, ← hmodules.length_eq]
  exact compute_of_loadedInOrder hdistinct' hloaded' hacyclic' hinOrder

end Numbers

/-!
## The order that is declared
-/

/-- Without cycles the numbers of the passes are determined, and the loop sorts by them. It makes
as many passes as the greatest number says. What is loaded in order stays in order. -/
theorem startup_by_pass {modules : List ModuleNeeds}
    (hdistinct : (modules.map ModuleNeeds.name).Nodup) (hloaded : AllLoaded modules)
    (hacyclic : Acyclic modules) :
    PassNumbers modules (passNumber modules) ∧
      (forall number, PassNumbers modules number -> forall i, i < modules.length ->
        number i = passNumber modules i) ∧
      compute modules = .ok (byPass (passNumber modules) modules.length) ∧
      sequence [] modules.zipIdx =
        .ok ((passes [] modules.zipIdx).flatMap PassResult.taken) ∧
      (passes [] modules.zipIdx).length =
        greatest 0 ((List.range modules.length).map (passNumber modules)) ∧
      (LoadedInOrder modules -> compute modules = .ok (List.range modules.length)) ∧
      forall order, compute modules = .ok order ->
        compute (order.filterMap (modules[·]?)) = .ok (List.range modules.length) := by
  rcases exists_descends hdistinct hloaded hacyclic with ⟨depth, hdepth, hbound⟩
  have hnumbers := passNumbers_passNumber hdepth hbound
  refine ⟨hnumbers, ?_, ?_, ?_, ?_, ?_, ?_⟩
  · intro number hnumber i hi
    exact hnumber.eq hdepth hloaded hnumbers hi
  · exact compute_eq_byPass hdistinct hdepth hloaded hacyclic hnumbers
  · exact sequence_eq_ok hdistinct hloaded hacyclic
  · rw [passes_eq hdistinct hdepth hloaded hnumbers, List.length_map, List.length_range']
  · exact compute_of_loadedInOrder hdistinct hloaded hacyclic
  · intro order horder
    exact compute_of_computed hdistinct hloaded hacyclic horder

/-- The first module waits for the third, and the second for the first. -/
def alarmOnStorage : List ModuleNeeds :=
  [{ name := "alarm", provider := "default", requires := ["storage"] },
    { name := "query", provider := "default", requires := ["alarm", "storage"] },
    { name := "storage", provider := "memory", requires := [] }]

example : (List.range 3).map (passNumber alarmOnStorage) = [2, 2, 1] := by decide +kernel

example : compute alarmOnStorage = .ok [2, 0, 1] := by decide +kernel

theorem startup_by_pass_of_alarmOnStorage :
    (alarmOnStorage.map ModuleNeeds.name).Nodup ∧ AllLoaded alarmOnStorage ∧
      Acyclic alarmOnStorage ∧
      PassNumbers alarmOnStorage (passNumber alarmOnStorage) ∧
      (forall number, PassNumbers alarmOnStorage number -> forall i, i < alarmOnStorage.length ->
        number i = passNumber alarmOnStorage i) ∧
      compute alarmOnStorage = .ok (byPass (passNumber alarmOnStorage) alarmOnStorage.length) ∧
      sequence [] alarmOnStorage.zipIdx =
        .ok ((passes [] alarmOnStorage.zipIdx).flatMap PassResult.taken) ∧
      (passes [] alarmOnStorage.zipIdx).length =
        greatest 0 ((List.range alarmOnStorage.length).map (passNumber alarmOnStorage)) ∧
      (LoadedInOrder alarmOnStorage ->
        compute alarmOnStorage = .ok (List.range alarmOnStorage.length)) ∧
      forall order, compute alarmOnStorage = .ok order ->
        compute (order.filterMap (alarmOnStorage[·]?)) =
          .ok (List.range alarmOnStorage.length) := by
  have hdistinct : (alarmOnStorage.map ModuleNeeds.name).Nodup := by decide
  have hloaded : AllLoaded alarmOnStorage := by
    unfold AllLoaded
    decide
  have hsequence : exists order, sequence [] alarmOnStorage.zipIdx = .ok order :=
    ⟨[2, 0, 1].filterMap fun i => (alarmOnStorage[i]?).map fun m => (m, i), by decide +kernel⟩
  rcases hsequence with ⟨order, horder⟩
  have hacyclic := acyclic_of_sequence_ok hdistinct horder
  exact ⟨hdistinct, hloaded, hacyclic, startup_by_pass hdistinct hloaded hacyclic⟩

end StartupOrder
end ClusterNode
