import ClusterNode.Startup.Error
import ClusterNode.Text.Quoted

/-!
# Service registries

Each module has a registry of the services it provides, one implementation for each capability. The
module fills it while it prepares; then the registry is frozen. Nothing is ever removed or replaced.
-/

namespace ClusterNode

structure Registry (V : Type) where
  owner : String
  services : List (Capability × V)
  frozen : Bool
  deriving Repr

namespace Registry

variable {V : Type}

def create (owner : String) : Registry V := { owner, services := [], frozen := false }

def find? (r : Registry V) (c : Capability) : Option V :=
  (r.services.find? fun (key, _) => key == c).map Prod.snd

def contains (r : Registry V) (c : Capability) : Bool := (r.find? c).isSome

/-- The first implementation of a capability stays. -/
def register (r : Registry V) (c : Capability) (v : V) : Except ModuleError (Registry V) :=
  if r.frozen then .error (.registryFrozen r.owner)
  else if r.contains c then .error (.duplicateService r.owner c)
  else .ok { r with services := r.services ++ [(c, v)] }

def get (r : Registry V) (c : Capability) : Except ModuleError V :=
  match r.find? c with
  | some v => .ok v
  | none => .error (.serviceNotProvided r.owner c)

/-- Fails for the first capability that is missing. -/
def requireAll (r : Registry V) (promised : List Capability) : Except ModuleError Unit :=
  match promised.find? fun c => !r.contains c with
  | some missing => .error (.serviceNotProvided r.owner missing)
  | none => .ok ()

def freeze (r : Registry V) : Registry V := { r with frozen := true }

def size (r : Registry V) : Nat := r.services.length

def serviceNames (r : Registry V) : List String :=
  (r.services.map fun (c, _) => c.typeName).mergeSort fun a b => a ≤ b

def debugText (r : Registry V) : String :=
  "ServiceRegistry \x7b module: " ++ Text.quoted r.owner ++ ", services: " ++
    Text.bracketed (r.serviceNames.map Text.quoted) ++ ", frozen: " ++ toString r.frozen ++ " \x7d"

/-!
## Laws of a registry
-/

theorem get_eq_ok_iff {r : Registry V} {c : Capability} {v : V} :
    r.get c = .ok v <-> r.find? c = some v := by
  unfold get
  split <;> simp_all

theorem owner_register {r r' : Registry V} {c : Capability} {v : V}
    (h : r.register c v = .ok r') : r'.owner = r.owner := by
  unfold register at h
  split at h
  · simp at h
  · split at h
    · simp at h
    · simp at h
      subst h
      rfl

end Registry
end ClusterNode
