import ClusterNode.Startup.Error

/-!
# Startup order

The order in which loaded modules start: each after the modules it requires. The order is found in
passes over the modules that are still pending, in loading order; a module is taken as soon as all
its requirements have been taken, in the same pass or before. When a pass takes nothing, some of the
pending modules are on a cycle of requirements and the others wait for one.
-/

namespace ClusterNode

structure ModuleNeeds where
  name : String
  provider : String
  requires : List String
  deriving DecidableEq, Repr

namespace ModuleNeeds

def requester (m : ModuleNeeds) : String := m.name ++ "." ++ m.provider

def describe (m : ModuleNeeds) : StuckProvider :=
  { moduleName := m.name, provider := m.provider, requires := m.requires }

end ModuleNeeds

namespace StartupOrder

/-- The first requirement that names no loaded module, with the module that requires it. -/
def unloaded? (loaded : List String) : List ModuleNeeds -> Option (String × ModuleNeeds)
  | [] => none
  | m :: rest =>
      match m.requires.find? fun r => !loaded.contains r with
      | some required => some (required, m)
      | none => unloaded? loaded rest

structure PassResult where
  taken : List (ModuleNeeds × Nat)
  left : List (ModuleNeeds × Nat)

/-- One pass. `done` are the names taken before. -/
def pass (done : List String) : List (ModuleNeeds × Nat) -> PassResult
  | [] => { taken := [], left := [] }
  | (m, n) :: rest =>
      if m.requires.all done.contains then
        let result := pass (m.name :: done) rest
        { result with taken := (m, n) :: result.taken }
      else
        let result := pass done rest
        { result with left := (m, n) :: result.left }

/-- Passes until nothing is pending, or until a pass takes nothing: then what is pending remains. -/
def sequence (done : List String) (pending : List (ModuleNeeds × Nat)) :
    Except (List (ModuleNeeds × Nat)) (List (ModuleNeeds × Nat)) :=
  match pending with
  | [] => .ok []
  | pending =>
      let result := pass done pending
      if result.left.length < pending.length then
        match sequence (result.taken.map (·.1.name) ++ done) result.left with
        | .ok rest => .ok (result.taken ++ rest)
        | .error stuck => .error stuck
      else .error pending
termination_by pending.length

/-!
## Cycles
-/

def named (modules : List ModuleNeeds) (name : String) : Option ModuleNeeds :=
  modules.find? fun m => m.name == name

def unseen (modules : List ModuleNeeds) (seen : List String) : List ModuleNeeds :=
  modules.filter fun m => !seen.contains m.name

theorem length_unseen_lt {modules : List ModuleNeeds} {seen : List String} {name : String}
    {m : ModuleNeeds} (h : named modules name = some m) (hseen : name ∉ seen) :
    (unseen modules (name :: seen)).length < (unseen modules seen).length := by
  have hname : m.name = name := by simpa using List.find?_some h
  have hfresh : m ∈ unseen modules seen := by
    simp [unseen, List.mem_of_find?_eq_some h, hname, hseen]
  have hsplit : unseen modules (name :: seen) =
      (unseen modules seen).filter fun n => !decide (n.name = name) := by
    simp only [unseen, List.filter_filter]
    apply List.filter_congr
    intro n _
    simp
  rw [hsplit]
  apply List.length_filter_lt_length_iff_exists.mpr
  exact ⟨m, hfresh, by simp [hname]⟩

/-- Whether a search from the names on the stack comes to a name. The name that was put on the stack
last is looked at first; a name that is not pending leads nowhere. -/
def search (modules : List ModuleNeeds) (goal : String) (seen : List String) :
    List String -> Bool
  | [] => false
  | name :: stack =>
      if name = goal then true
      else if name ∈ seen then search modules goal seen stack
      else
        match _h : named modules name with
        | none => search modules goal seen stack
        | some m => search modules goal (name :: seen) (m.requires.reverse ++ stack)
termination_by stack => ((unseen modules seen).length, stack.length)
decreasing_by
  · exact Prod.Lex.right _ (Nat.lt_succ_self _)
  · exact Prod.Lex.right _ (Nat.lt_succ_self _)
  · exact Prod.Lex.left _ _ (length_unseen_lt ‹_› ‹_›)

def onCycle (modules : List ModuleNeeds) (m : ModuleNeeds) : Bool :=
  search modules m.name [] m.requires.reverse

/-- The modules on a cycle, and those that wait for one. -/
def cycleError (pending : List ModuleNeeds) : ModuleError :=
  let (stuck, blocked) := pending.partition (onCycle pending)
  .cycleDependency (stuck.map ModuleNeeds.describe) (blocked.map ModuleNeeds.describe)

/-- The loading numbers in startup order. -/
def compute (modules : List ModuleNeeds) : Except ModuleError (List Nat) :=
  match unloaded? (modules.map ModuleNeeds.name) modules with
  | some (required, m) => .error (.requiredModuleNotFound required m.requester)
  | none =>
      match sequence [] modules.zipIdx with
      | .ok order => .ok (order.map Prod.snd)
      | .error stuck => .error (cycleError (stuck.map Prod.fst))

/-!
## One pass
-/

theorem pass_length (done : List String) (pending : List (ModuleNeeds × Nat)) :
    (pass done pending).taken.length + (pass done pending).left.length = pending.length := by
  induction pending generalizing done with
  | nil => rfl
  | cons e rest ih =>
      obtain ⟨m, n⟩ := e
      rw [pass]
      split
      · have := ih (m.name :: done)
        simp
        omega
      · have := ih done
        simp
        omega

theorem pass_perm (done : List String) (pending : List (ModuleNeeds × Nat)) :
    ((pass done pending).taken ++ (pass done pending).left).Perm pending := by
  induction pending generalizing done with
  | nil => exact List.Perm.refl _
  | cons e rest ih =>
      obtain ⟨m, n⟩ := e
      rw [pass]
      split
      · exact (ih (m.name :: done)).cons (m, n)
      · exact List.perm_middle.trans ((ih done).cons (m, n))

end StartupOrder
end ClusterNode
