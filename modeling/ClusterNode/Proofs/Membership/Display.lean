import ClusterNode.Proofs.Address.Display
import ClusterNode.Proofs.Membership.Entries

/-!
# Displayed addresses as members

The text of an address that has been read is one entry of a member list, unless the host has a comma
or a question mark, and that entry is the address. No two addresses that have been read share a
text.
-/

namespace ClusterNode

open Text

namespace Address

variable {a b : Address} {text other : String} {d d' : UInt16} {c : Char}

theorem parse_toText_of_read (h : parseWithDefault text d = .ok a) : parse a.toText = .ok a := by
  rw [parse_toText (isHost_of_parseWithDefault h), ← isPlain_of_parseWithDefault h]

theorem parseWithDefault_toText_of_read (h : parseWithDefault text d = .ok a) (d' : UInt16) :
    parseWithDefault a.toText d' = .ok a := by
  rw [parseWithDefault_toText (isHost_of_parseWithDefault h), ← isPlain_of_parseWithDefault h]

theorem notMem_toText (hhost : c ∉ a.host.toList) (hc : c = ',' ∨ c = '?') :
    c ∉ a.toText.toList := by
  intro hmem
  rcases mem_toText hmem with hmem | hother
  · exact hhost hmem
  · rcases hc with rfl | rfl
    · revert hother
      decide
    · revert hother
      decide

end Address

namespace FixedMembers

variable {a : Address} {text : String} {d : UInt16}

theorem trimmed_pieces_toText (h : Address.parseWithDefault text d = .ok a)
    (hcomma : ',' ∉ a.host.toList) :
    trimmed (pieces ',' a.toText.toList) = [a.toText.toList] := by
  have htrim := Address.trimChars_toText (Address.isHost_of_parseWithDefault h)
  have hblank : ¬Blanks a.toText.toList := by
    rw [← trimChars_eq_nil_iff, htrim, Address.toList_toText]
    split <;> simp
  rw [pieces_of_notMem (Address.notMem_toText hcomma (Or.inl rfl)), trimmed_of_not_blanks hblank,
    htrim]

theorem resolve_toText (h : Address.parseWithDefault text d = .ok a)
    (hmark : '?' ∉ a.host.toList) (m : FixedMembers) :
    m.resolve [a.toText.toList] = ([a], []) := by
  have hparse : m.parseEntry a.toText.toList = .ok a := by
    unfold parseEntry
    rw [before_eq_self (Address.notMem_toText hmark (Or.inr rfl)), String.ofList_toList,
      Address.parseWithDefault_toText_of_read h]
  unfold resolve
  rw [hparse]
  rfl

/-- Among other members the address stands between theirs. -/
theorem query_among (h : Address.parseWithDefault text d = .ok a) (hcomma : ',' ∉ a.host.toList)
    (hmark : '?' ∉ a.host.toList) (port : UInt16) (memberFile : Option String) (read : FileReader)
    (before after : List String) :
    exists xs ys warnings later,
      (ofList before port).query read = (.ok xs, warnings) ∧
      (ofList after port).query read = (.ok ys, later) ∧
      { ofList (before ++ a.toText :: after) port with memberFile }.query read =
        (.ok (xs ++ a :: ys), warnings ++ later) := by
  generalize hm : { ofList (before ++ a.toText :: after) port with memberFile } = m
  have hport : m.defaultPort = port := by rw [← hm]; rfl
  have hlisted : m.listed =
      (ofList before port).listed ++ ([a.toText.toList] ++ (ofList after port).listed) := by
    rw [← trimmed_pieces_toText h hcomma, listed_eq, listed_eq, listed_eq, ← trimmed_append,
      ← trimmed_append, ← hm]
    show trimmed ((before ++ a.toText :: after).flatMap fun s => pieces ',' s.toList) = _
    rw [List.flatMap_append, List.flatMap_cons]
    rfl
  have hne : m.listed ≠ [] := by
    rw [hlisted]
    simp
  refine ⟨_, _, _, _, query_ofList before port read, query_ofList after port read, ?_⟩
  rw [query_of_listed_ne_nil hne, hlisted, resolve_append, resolve_append, resolve_toText h hmark,
    resolve_congr (n := ofList before port) hport, resolve_congr (n := ofList after port) hport]
  rfl

/-- The text of an address that has been read is read back as that address, also as a member on its
own and among others, and no other address that may be read has this text. -/
theorem display_read_back (h : Address.parseWithDefault text d = .ok a) :
    Address.parse a.toText = .ok a ∧
    (',' ∉ a.host.toList -> '?' ∉ a.host.toList ->
      forall (port : UInt16) (memberFile : Option String) (read : FileReader),
        { ofList [a.toText] port with memberFile }.query read = (.ok [a], []) ∧
        forall before after : List String, exists xs ys warnings later,
          (ofList before port).query read = (.ok xs, warnings) ∧
          (ofList after port).query read = (.ok ys, later) ∧
          { ofList (before ++ a.toText :: after) port with memberFile }.query read =
            (.ok (xs ++ a :: ys), warnings ++ later)) ∧
    forall (other : String) (d' : UInt16) (b : Address),
      Address.parseWithDefault other d' = .ok b -> a.toText = b.toText -> a = b := by
  refine ⟨Address.parse_toText_of_read h, ?_, ?_⟩
  · intro hcomma hmark port memberFile read
    have hamong := query_among h hcomma hmark port memberFile read
    refine ⟨?_, hamong⟩
    rcases hamong [] [] with ⟨xs, ys, warnings, later, hxs, hys, hquery⟩
    rw [query_ofList] at hxs hys
    cases hxs
    cases hys
    exact hquery
  · intro other d' b hb htext
    have hread := Address.parse_toText_of_read h
    rw [htext, Address.parse_toText_of_read hb] at hread
    exact (Except.ok.inj hread).symm

/-- The host ends in a blank and holds a bracket. -/
theorem display_read_back_of_oddHost :
    Address.parseWithDefault " a] :+080" 1 = .ok { host := "a] ", port := 80 } ∧
    Address.parse "a] :80" = .ok { host := "a] ", port := 80 } ∧
    { ofList ["a] :80"] 1 with memberFile := some "members" }.query (fun _ => .error .notFound) =
      (.ok [{ host := "a] ", port := 80 }], []) := by
  have h : Address.parseWithDefault " a] :+080" 1 = .ok { host := "a] ", port := 80 } := by
    cbv
  have hback := display_read_back h
  have htext : ({ host := "a] ", port := 80 } : Address).toText = "a] :80" := by cbv
  rw [htext] at hback
  exact ⟨h, hback.left, (hback.right.left (by decide) (by decide) 1 _ _).left⟩

end FixedMembers
end ClusterNode
