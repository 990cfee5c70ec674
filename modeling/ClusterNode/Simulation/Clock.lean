import ClusterNode.Time

/-!
# A clock that runs ahead

Time that stands still while anything can happen, and then jumps to the next moment at which
something is due.
-/

namespace ClusterNode
namespace Simulation

def nextTime (now limit : Time) (times : List Time) : Option Time :=
  (times.filter fun t => now < t && t ≤ limit).min?

theorem nextTime_bounds {now limit t : Time} {times : List Time}
    (h : nextTime now limit times = some t) : now < t ∧ t ≤ limit := by
  have hmem := List.min?_mem h
  simpa using (List.mem_filter.1 hmem).2

/-- Settles the state at every moment up to `limit` at which something is due, until it satisfies
`done`. -/
def advance {σ : Type} (settle : Time -> σ -> σ) (wakes : σ -> List Time) (done : σ -> Bool)
    (limit now : Time) (s : σ) : Time × σ :=
  let s := settle now s
  if done s then (now, s)
  else
    match _h : nextTime now limit (wakes s) with
    | some t => advance settle wakes done limit t s
    | none => (limit, s)
termination_by limit - now
decreasing_by
  obtain ⟨hlater, hlimit⟩ := nextTime_bounds _h
  exact Nat.sub_lt_sub_left (Nat.lt_of_lt_of_le hlater hlimit) hlater

end Simulation
end ClusterNode
