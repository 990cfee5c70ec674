import ClusterNode.Startup.Order
import Mathlib.Data.Set.Finite.Basic
import Mathlib.Logic.Relation

/-!
# Requirements between modules

The names of the modules are the nodes of a graph, and each requirement is an edge. In a finite set
of names in which each requires another one, every name leads to a cycle.
-/

namespace ClusterNode
namespace StartupOrder

open Relation

def Requires (modules : List ModuleNeeds) (a b : String) : Prop :=
  exists m, m ∈ modules ∧ m.name = a ∧ b ∈ m.requires

/-- One or more requirements lead from the one name to the other. -/
def Reaches (modules : List ModuleNeeds) : String -> String -> Prop :=
  TransGen (Requires modules)

def OnCycle (modules : List ModuleNeeds) (name : String) : Prop :=
  Reaches modules name name

def LeadsToCycle (modules : List ModuleNeeds) (name : String) : Prop :=
  exists other, Reaches modules name other ∧ OnCycle modules other

def WaitsForCycle (modules : List ModuleNeeds) (name : String) : Prop :=
  ¬OnCycle modules name ∧ LeadsToCycle modules name

def Acyclic (modules : List ModuleNeeds) : Prop :=
  forall name, ¬OnCycle modules name

def AllLoaded (modules : List ModuleNeeds) : Prop :=
  forall m, m ∈ modules -> forall r, r ∈ m.requires -> r ∈ modules.map ModuleNeeds.name

theorem OnCycle.leadsToCycle {modules : List ModuleNeeds} {name : String}
    (h : OnCycle modules name) : LeadsToCycle modules name :=
  ⟨name, h, h⟩

theorem LeadsToCycle.of_requires {modules : List ModuleNeeds} {a b : String}
    (hab : Requires modules a b) (h : LeadsToCycle modules b) : LeadsToCycle modules a := by
  rcases h with ⟨other, hother, hcycle⟩
  exact ⟨other, hother.head hab, hcycle⟩

theorem LeadsToCycle.exists_requires {modules : List ModuleNeeds} {a : String}
    (h : LeadsToCycle modules a) :
    exists b, Requires modules a b ∧ LeadsToCycle modules b := by
  rcases h with ⟨other, hother, hcycle⟩
  rcases TransGen.head'_iff.mp hother with ⟨b, hab, hrest⟩
  refine ⟨b, hab, ?_⟩
  rcases reflTransGen_iff_eq_or_transGen.mp hrest with heq | hreaches
  · rw [← heq]
    exact hcycle.leadsToCycle
  · exact ⟨other, hreaches, hcycle⟩

theorem requires_congr {modules modules' : List ModuleNeeds} (h : modules'.Perm modules) :
    Requires modules' = Requires modules := by
  funext a b
  apply propext
  unfold Requires
  simp only [h.mem_iff]

/-!
## Finitely many names
-/

theorem exists_cycle {α : Type} [Finite α] [Nonempty α] {R : α -> α -> Prop}
    (hnext : forall a, exists b, R a b) : exists a, TransGen R a a := by
  by_contra hacyclic
  have hirrefl : Std.Irrefl (Function.swap (TransGen R)) :=
    ⟨fun a ha => hacyclic ⟨a, ha⟩⟩
  have htrans : IsTrans α (Function.swap (TransGen R)) :=
    ⟨fun _ _ _ hab hbc => TransGen.trans hbc hab⟩
  have hwf := Finite.wellFounded_of_trans_of_irrefl (Function.swap (TransGen R))
  rcases ‹Nonempty α› with ⟨start⟩
  induction start using hwf.induction with
  | _ a ih =>
      rcases hnext a with ⟨b, hab⟩
      exact ih b (TransGen.single hab)

theorem exists_cycle_of_finite {α : Type} {R : α -> α -> Prop} {s : Set α} (hfinite : s.Finite)
    (hsome : s.Nonempty) (hnext : forall a, a ∈ s -> exists b, b ∈ s ∧ R a b) :
    exists a, a ∈ s ∧ TransGen R a a := by
  have hfinite' : Finite s := hfinite.to_subtype
  have hsome' : Nonempty s := hsome.to_subtype
  have hnext' : forall a : s, exists b : s, R a.val b.val := by
    intro a
    rcases hnext a.val a.property with ⟨b, hb, hab⟩
    exact ⟨⟨b, hb⟩, hab⟩
  rcases exists_cycle hnext' with ⟨a, hcycle⟩
  exact ⟨a.val, a.property, TransGen.lift (fun x : s => x.val) (fun _ _ h => h) a a hcycle⟩

/-- Among the names that can be reached from one of them there is a cycle. -/
theorem leadsToCycle_of_closed {modules : List ModuleNeeds} {names : List String}
    (hnext : forall a, a ∈ names -> exists b, b ∈ names ∧ Requires modules a b) {name : String}
    (hname : name ∈ names) : LeadsToCycle modules name := by
  have hfinite : Set.Finite
      { x : String | x ∈ names ∧ ReflTransGen (Requires modules) name x } :=
    (List.finite_toSet names).subset fun x hx => hx.left
  rcases exists_cycle_of_finite hfinite ⟨name, hname, ReflTransGen.refl⟩ (by
    intro a ha
    rcases hnext a ha.left with ⟨b, hb, hab⟩
    exact ⟨b, ⟨hb, ha.right.tail hab⟩, hab⟩) with ⟨other, hother, hcycle⟩
  exact ⟨other, TransGen.trans_right hother.right hcycle, hcycle⟩

end StartupOrder
end ClusterNode
