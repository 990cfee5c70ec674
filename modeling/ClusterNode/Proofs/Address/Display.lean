import ClusterNode.Proofs.Address.Grammar

/-!
# Reading an address back

The text of an address with a host that the parser may have produced is a text of the grammar with
no blanks around it. It names the host and the port, so it is read as the address itself.
-/

namespace ClusterNode

namespace Number

variable {s : List Char} {c : Char}

theorem isDigit_of_isDigit (h : c.isDigit = true) : digit? c = some (c.toNat - '0'.toNat) := by
  simp only [Char.isDigit, Bool.and_eq_true, decide_eq_true_eq] at h
  unfold digit?
  exact if_pos h

theorem readDigits_eq_ofDigitChars (h : forall c, c ∈ s -> c.isDigit = true) (value : Nat) :
    readDigits value s = some (Nat.ofDigitChars 10 s value) := by
  induction s generalizing value with
  | nil => rfl
  | cons c rest ih =>
      rw [readDigits, isDigit_of_isDigit (h c List.mem_cons_self), Option.bind_some,
        ih fun d hd => h d (List.mem_cons_of_mem c hd), Nat.ofDigitChars_cons, Nat.mul_comm]

theorem toList_toString (n : Nat) : (toString n).toList = Nat.toDigits 10 n :=
  Nat.toList_repr

theorem toList_toString_ne_nil (n : Nat) : (toString n).toList ≠ [] := by
  rw [toList_toString]
  exact Nat.toDigits_ne_nil

theorem isDigit_of_mem_toString {n : Nat} (h : c ∈ (toString n).toList) : c.isDigit = true := by
  rw [toList_toString] at h
  exact Nat.isDigit_of_mem_toDigits (by decide) (by decide) h

theorem natural?_toString (n : Nat) : natural? (toString n).toList = some n := by
  have hread := readDigits_eq_ofDigitChars (s := (toString n).toList)
    (fun c hc => isDigit_of_mem_toString hc) 0
  unfold natural?
  rw [if_neg, hread, toList_toString, Nat.ofDigitChars_ten_toDigits]
  rw [List.isEmpty_iff]
  exact toList_toString_ne_nil n

theorem dropPlus_toString (n : Nat) : dropPlus (toString n).toList = (toString n).toList := by
  unfold dropPlus
  split
  · rename_i rest hrest
    have hplus := isDigit_of_mem_toString (n := n) (hrest ▸ List.mem_cons_self)
    cases hplus
  · rfl

theorem port?_toString (p : UInt16) : port? (toString p.toNat).toList = some p := by
  unfold port? unsigned?
  rw [dropPlus_toString, natural?_toString, Option.filter_some, if_pos]
  · exact congrArg some (UInt16.ofNat_toNat)
  · exact decide_eq_true p.toNat_lt

end Number

namespace Address

open Text

variable {a b : Address} {text : String} {d : UInt16} {c : Char}

/-- A host that the parser may produce. -/
structure IsHost (host : List Char) : Prop where
  cases : Net.isIpv6 host = true ∨ IsName host
  head : forall c, host.head? = some c -> isBlank c = false

theorem isHost_of_parseWithDefault (h : parseWithDefault text d = .ok a) :
    IsHost a.host.toList := by
  rcases parseWithDefault_eq_ok_iff.mp h with ⟨host, port, hwritten, rfl⟩
  show IsHost (String.ofList host).toList
  rw [String.toList_ofList]
  exact ⟨hwritten.host_cases, fun c hc => hwritten.isBlank_head? hc⟩

theorem isPlain_of_parseWithDefault (h : parseWithDefault text d = .ok a) :
    a = { host := a.host, port := a.port, isInternal := false, isSelf := false } := by
  rcases parseWithDefault_eq_ok_iff.mp h with ⟨host, port, _, rfl⟩
  rfl

/-!
## The text of an address

The port comes last. Besides the host there are only brackets, a colon and digits.
-/

theorem toList_toText (a : Address) :
    a.toText.toList =
      if ':' ∈ a.host.toList then
        '[' :: (a.host.toList ++ ']' :: ':' :: (toString a.port.toNat).toList)
      else a.host.toList ++ ':' :: (toString a.port.toNat).toList := by
  unfold toText
  split <;> simp

theorem exists_toText_eq (a : Address) :
    exists front, a.toText.toList = front ++ (toString a.port.toNat).toList := by
  rw [toList_toText]
  split
  · exact ⟨'[' :: (a.host.toList ++ [']', ':']), by simp⟩
  · exact ⟨a.host.toList ++ [':'], by simp⟩

theorem written_toText (h : IsHost a.host.toList) :
    Written a.toText.toList a.host.toList (some a.port) := by
  rw [toList_toText]
  rcases h.cases with hv6 | hname
  · rw [if_pos (Net.colon_mem_of_isIpv6 hv6)]
    exact .bracketedPort hv6 (Number.port?_toString a.port)
  · rw [if_neg hname.right.left]
    exact .namedPort hname (Number.port?_toString a.port)

theorem mem_toText (h : c ∈ a.toText.toList) :
    c ∈ a.host.toList ∨ c = '[' ∨ c = ']' ∨ c = ':' ∨ c.isDigit = true := by
  rw [toList_toText] at h
  split at h
  · simp only [List.mem_cons, List.mem_append] at h
    rcases h with hopen | hhost | hclose | hcolon | hport
    · exact Or.inr (Or.inl hopen)
    · exact Or.inl hhost
    · exact Or.inr (Or.inr (Or.inl hclose))
    · exact Or.inr (Or.inr (Or.inr (Or.inl hcolon)))
    · exact Or.inr (Or.inr (Or.inr (Or.inr (Number.isDigit_of_mem_toString hport))))
  · simp only [List.mem_append, List.mem_cons] at h
    rcases h with hhost | hcolon | hport
    · exact Or.inl hhost
    · exact Or.inr (Or.inr (Or.inr (Or.inl hcolon)))
    · exact Or.inr (Or.inr (Or.inr (Or.inr (Number.isDigit_of_mem_toString hport))))

theorem isBlank_of_isDigit (h : c.isDigit = true) : isBlank c = false := by
  apply Net.isBlank_of_isIpChar
  apply Net.isIpChar_of_isDigit
  exact Option.isSome_of_eq_some (Number.isDigit_of_isDigit h)

theorem trimChars_toText (h : IsHost a.host.toList) :
    trimChars a.toText.toList = a.toText.toList := by
  apply trimChars_eq_self
  · intro c hc
    rw [toList_toText] at hc
    split at hc
    · cases hc
      rfl
    · rename_i hcolon
      rcases h.cases with hv6 | ⟨hne, _⟩
      · exact absurd (Net.colon_mem_of_isIpv6 hv6) hcolon
      · rw [List.head?_append_of_ne_nil _ hne] at hc
        exact h.head c hc
  · intro c hc
    rcases exists_toText_eq a with ⟨front, htext⟩
    rw [htext, List.getLast?_append_of_ne_nil _ (Number.toList_toString_ne_nil _)] at hc
    exact isBlank_of_isDigit (Number.isDigit_of_mem_toString (List.mem_of_getLast? hc))

theorem parse_toText (h : IsHost a.host.toList) :
    parse a.toText = .ok { host := a.host, port := a.port } := by
  rw [parse_eq_ok_iff, trimChars_toText h]
  refine ⟨a.host.toList, a.port, written_toText h, ?_⟩
  rw [ofHostPort, String.ofList_toList]

theorem parseWithDefault_toText (h : IsHost a.host.toList) (d : UInt16) :
    parseWithDefault a.toText d = .ok { host := a.host, port := a.port } := by
  rw [parseWithDefault_eq_ok_iff, trimChars_toText h]
  refine ⟨a.host.toList, some a.port, written_toText h, ?_⟩
  rw [ofHostPort, String.ofList_toList]
  rfl

end Address
end ClusterNode
