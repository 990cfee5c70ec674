import ClusterNode.Membership
import ClusterNode.Proofs.Text.Cuts

/-!
# Entries of a fixed membership

Each entry that is not blank gives an address or a warning, and only the part before its first
question mark decides which. The answer to a query lists the addresses in the order of the entries,
and the warnings in the same order.
-/

namespace ClusterNode

open Text

theorem Address.parseWithDefault_congr {s t : String}
    (h : trimChars s.toList = trimChars t.toList) (d : UInt16) :
    Address.parseWithDefault s d = Address.parseWithDefault t d := by
  unfold Address.parseWithDefault
  rw [h]

namespace FixedMembers

def ofList (members : List String) (defaultPort : UInt16) : FixedMembers :=
  { members, memberFile := none, defaultPort }

def ofFile (path : String) (defaultPort : UInt16) : FixedMembers :=
  { members := [], memberFile := some path, defaultPort }

variable {m : FixedMembers} {read : FileReader} {texts : List (List Char)} {entry t : List Char}

/-!
## One entry
-/

/-- The address of an entry, if it has one. -/
def accepted? (m : FixedMembers) (entry : List Char) : Option Address :=
  (m.parseEntry entry).toOption

def warning? : Except ClusterError Address -> Option Signal
  | .ok _ => none
  | .error e => some (.warning ("Skipping cluster member entry: " ++ e.message))

/-- The warning about an entry that has no address. -/
def skipped? (m : FixedMembers) (entry : List Char) : Option Signal :=
  warning? (m.parseEntry entry)

theorem parseEntry_congr {n : FixedMembers} (h : m.defaultPort = n.defaultPort)
    (entry : List Char) : m.parseEntry entry = n.parseEntry entry := by
  unfold parseEntry
  rw [h]

theorem parseEntry_trimChars (m : FixedMembers) (t : List Char) :
    m.parseEntry (trimChars t) = m.parseEntry t := by
  apply Address.parseWithDefault_congr
  rw [String.toList_ofList, String.toList_ofList, trimChars_before_trimChars rfl]

theorem parseEntry_of_before {u : List Char} (h : before '?' t = before '?' u) :
    m.parseEntry t = m.parseEntry u := by
  unfold parseEntry
  rw [h]

theorem accepted?_of_blanks (h : Blanks t) : m.accepted? t = none := by
  have hblank : m.parseEntry t = m.parseEntry [] := by
    rw [← parseEntry_trimChars, trimChars_eq_nil_iff.mpr h]
  unfold accepted?
  rw [hblank]
  rfl

/-!
## All entries

Each entry that is not blank gives an address or a warning. Only the default port matters to how
entries are read.
-/

def trimmed (texts : List (List Char)) : List (List Char) :=
  (texts.map trimChars).filter notBlank

theorem listed_eq (m : FixedMembers) :
    m.listed = trimmed (m.members.flatMap fun s => pieces ',' s.toList) := rfl

theorem trimmed_append (xs ys : List (List Char)) :
    trimmed (xs ++ ys) = trimmed xs ++ trimmed ys := by
  unfold trimmed
  rw [List.map_append, List.filter_append]

theorem trimmed_of_blanks (h : Blanks t) : trimmed [t] = [] := by
  unfold trimmed
  rw [List.map_singleton, trimChars_eq_nil_iff.mpr h]
  rfl

theorem trimmed_of_not_blanks (h : ¬Blanks t) : trimmed [t] = [trimChars t] := by
  have hne : notBlank (trimChars t) = true := by
    unfold notBlank
    rw [Bool.not_eq_true', List.isEmpty_eq_false_iff]
    exact fun hnil => h (trimChars_eq_nil_iff.mp hnil)
  unfold trimmed
  rw [List.map_singleton, List.filter_cons_of_pos hne]
  rfl

theorem resolve_eq (m : FixedMembers) (entries : List (List Char)) :
    m.resolve entries = (entries.filterMap m.accepted?, entries.filterMap m.skipped?) := by
  induction entries with
  | nil => rfl
  | cons entry rest ih =>
      unfold resolve
      rw [ih, List.filterMap_cons, List.filterMap_cons]
      unfold accepted? skipped?
      cases m.parseEntry entry with
      | ok address => rfl
      | error e => rfl

theorem length_resolve (m : FixedMembers) (entries : List (List Char)) :
    (m.resolve entries).1.length + (m.resolve entries).2.length = entries.length := by
  rw [resolve_eq]
  induction entries with
  | nil => rfl
  | cons entry rest ih =>
      dsimp only at ih ⊢
      rw [List.filterMap_cons, List.filterMap_cons, List.length_cons, ← ih]
      unfold accepted? skipped?
      cases m.parseEntry entry with
      | ok address => exact Nat.succ_add _ _
      | error e => rfl

theorem resolve_append (m : FixedMembers) (xs ys : List (List Char)) :
    m.resolve (xs ++ ys) =
      ((m.resolve xs).1 ++ (m.resolve ys).1, (m.resolve xs).2 ++ (m.resolve ys).2) := by
  simp only [resolve_eq, List.filterMap_append]

theorem resolve_congr {n : FixedMembers} (h : m.defaultPort = n.defaultPort)
    (entries : List (List Char)) : m.resolve entries = n.resolve entries := by
  have hparse : m.parseEntry = n.parseEntry := funext (parseEntry_congr h)
  rw [resolve_eq, resolve_eq]
  unfold accepted? skipped?
  rw [hparse]

theorem filterMap_accepted?_trimmed (m : FixedMembers) (texts : List (List Char)) :
    (trimmed texts).filterMap m.accepted? = texts.filterMap m.accepted? := by
  induction texts with
  | nil => rfl
  | cons t rest ih =>
      rw [← List.singleton_append, trimmed_append, List.filterMap_append, List.filterMap_append, ih]
      congr 1
      by_cases ht : Blanks t
      · rw [trimmed_of_blanks ht, List.filterMap_cons, accepted?_of_blanks ht]
      · rw [trimmed_of_not_blanks ht, List.filterMap_cons, List.filterMap_cons]
        unfold accepted?
        rw [parseEntry_trimChars]

/-!
## The answer to a query
-/

theorem query_of_entries {entries : List (List Char)} {signals : List Signal}
    (h : m.entries read = (.ok entries, signals)) :
    m.query read = (.ok (m.resolve entries).1, signals ++ (m.resolve entries).2) := by
  unfold query
  rw [h]

theorem query_of_listed_ne_nil (h : m.listed ≠ []) (read : FileReader) :
    m.query read = (.ok (m.resolve m.listed).1, (m.resolve m.listed).2) := by
  have hentries : m.entries read = (.ok m.listed, []) := by
    unfold entries
    split
    · rename_i heq _
      exact absurd heq h
    · rfl
  exact query_of_entries hentries

theorem query_ofList (members : List String) (port : UInt16) (read : FileReader) :
    (ofList members port).query read =
      (.ok ((ofList members port).resolve (ofList members port).listed).1,
        ((ofList members port).resolve (ofList members port).listed).2) := by
  have hentries : (ofList members port).entries read = (.ok (ofList members port).listed, []) := by
    unfold entries
    split
    · rename_i hfile
      cases hfile
    · rfl
  exact query_of_entries hentries

theorem query_ofFile {path content : String} (port : UInt16) (hread : read path = .ok content) :
    (ofFile path port).query read =
      (.ok ((ofFile path port).resolve (fileEntries content)).1,
        ((ofFile path port).resolve (fileEntries content)).2) := by
  have hentries : (ofFile path port).entries read = (.ok (fileEntries content), []) := by
    show readFile read path = _
    unfold readFile
    rw [hread]
  exact query_of_entries hentries

end FixedMembers
end ClusterNode
