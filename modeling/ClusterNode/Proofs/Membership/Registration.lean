import ClusterNode.Proofs.Address.Display
import ClusterNode.Proofs.Membership.Entries

/-!
# Registering with a fixed membership

A registration and a query read the same entries. So the registration fails when the query does, and
if neither fails, it warns exactly when no address of the answer has the host and port that are
registered.
-/

namespace ClusterNode

open Text

namespace FixedMembers

def notListed (address : Address) : Signal :=
  .warning (address.toText ++ " is not listed in the static cluster membership")

/-- A registration and a query see the same members. -/
structure SeesSame (m : FixedMembers) (read : FileReader) (address : Address) : Prop where
  /-- They fail together, and with the same error. -/
  fails : forall e, (m.register read address).1 = .error e <-> (m.query read).1 = .error e
  /-- If they do not, a warning says whether the address is missing from the answer. -/
  warns : forall queried, (m.query read).1 = .ok queried ->
    (m.register read address).1 = .ok () ∧
      (notListed address ∈ (m.register read address).2 <->
        address.key ∉ queried.map Address.key)

variable {m : FixedMembers} {read : FileReader} {address : Address}
  {entries : List (List Char)} {signals : List Signal}

/-!
## One look through the entries

The registration stops at the first entry that has the address; the query goes through all of them.
-/

theorem names_iff (m : FixedMembers) (entries : List (List Char)) (address : Address) :
    m.names entries address = true <->
      address.key ∈ (m.resolve entries).1.map Address.key := by
  unfold names
  rw [List.any_eq_true, resolve_eq, List.mem_map]
  constructor
  · rintro ⟨entry, hentry, hsame⟩
    cases hparse : m.parseEntry entry with
    | ok member =>
        rw [hparse] at hsame
        refine ⟨member, List.mem_filterMap.mpr ⟨entry, hentry, ?_⟩, (Address.same_iff _ _).mp hsame⟩
        unfold accepted?
        rw [hparse]
        rfl
    | error e =>
        rw [hparse] at hsame
        cases hsame
  · rintro ⟨member, hmember, hkey⟩
    rcases List.mem_filterMap.mp hmember with ⟨entry, hentry, haccepted⟩
    refine ⟨entry, hentry, ?_⟩
    unfold accepted? at haccepted
    cases hparse : m.parseEntry entry with
    | ok other =>
        rw [hparse] at haccepted
        cases haccepted
        exact (Address.same_iff _ _).mpr hkey
    | error e =>
        rw [hparse] at haccepted
        cases haccepted

theorem register_of_entries (h : m.entries read = (.ok entries, signals)) (address : Address) :
    m.register read address =
      (.ok (), signals ++ if m.names entries address then [] else [notListed address]) := by
  unfold register
  rw [h]
  dsimp only
  split
  · rw [List.append_nil]
  · rfl

/-!
## The two warnings of a registration

After the first colon one warning has a port and the other a blank.
-/

theorem notListed_ne_notFound (address : Address) (path : String) :
    notListed address ≠ .warning ("Cluster member file not found: " ++ path) := by
  intro h
  have hfront : "Cluster member file not found: ".toList =
      "Cluster member file not found".toList ++ [':', ' '] := by decide
  have htext := congrArg String.toList (Signal.warning.inj h)
  rw [String.toList_append, String.toList_append, Address.toList_toText, hfront,
    List.append_assoc, List.cons_append, List.cons_append, List.nil_append] at htext
  split at htext
  · cases (List.cons.inj htext).left
  · rename_i hcolon
    rw [List.append_assoc, List.cons_append] at htext
    have hrest := (eq_of_append_sep hcolon (by decide) htext).right
    cases hport : (toString address.port.toNat).toList with
    | nil => exact Number.toList_toString_ne_nil _ hport
    | cons c digits =>
        have hdigit : c.isDigit = true :=
          Number.isDigit_of_mem_toString (hport ▸ List.mem_cons_self)
        rw [hport] at hrest
        rw [(List.cons.inj hrest).left] at hdigit
        cases hdigit

theorem notListed_notMem_entries (m : FixedMembers) (read : FileReader) (address : Address) :
    notListed address ∉ (m.entries read).2 := by
  unfold entries
  split
  · rename_i path _ _
    unfold readFile
    split
    · exact List.not_mem_nil
    · intro h
      exact notListed_ne_notFound address path (List.mem_singleton.mp h)
    · exact List.not_mem_nil
  · exact List.not_mem_nil

/-!
## Registration and query
-/

theorem seesSame (m : FixedMembers) (read : FileReader) (address : Address) :
    m.SeesSame read address := by
  have hfile := notListed_notMem_entries m read address
  cases hentries : m.entries read with
  | mk found signals =>
      rw [hentries] at hfile
      cases found with
      | error e =>
          have hregister : m.register read address = (.error e, signals) := by
            unfold register
            rw [hentries]
          have hquery : m.query read = (.error e, signals) := by
            unfold query
            rw [hentries]
          constructor
          · intro e'
            rw [hregister, hquery]
            simp
          · intro queried hok
            rw [hquery] at hok
            cases hok
      | ok entries =>
          have hregister := register_of_entries hentries address
          have hquery := query_of_entries hentries
          constructor
          · intro e
            rw [hregister, hquery]
            simp
          · intro queried hok
            rw [hquery] at hok
            cases hok
            rw [hregister]
            refine ⟨rfl, ?_⟩
            show notListed address ∈ signals ++ _ <-> _
            rw [← names_iff, List.mem_append, or_iff_right hfile]
            by_cases hnames : m.names entries address = true
            · rw [if_pos hnames]
              exact ⟨fun h => absurd h List.not_mem_nil, fun h => absurd hnames h⟩
            · rw [if_neg hnames]
              exact ⟨fun _ => hnames, fun _ => List.mem_singleton_self _⟩

end FixedMembers
end ClusterNode
