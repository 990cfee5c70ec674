import ClusterNode.Address.Parser
import ClusterNode.Proofs.Net.Ipv6

/-!
# The grammar of addresses

An address is written in one of five forms. The parser reads exactly these, and since it is a
function, no text has two readings. A host is an IPv6 address, or it has no colon.
-/

namespace ClusterNode

/-!
## Ports

A port is written with digits and maybe a plus sign.
-/

namespace Number

variable {digits : List Char} {port : UInt16} {c : Char}

theorem eq_plus_or_isDigit_of_port? (h : port? digits = some port) (hc : c ∈ digits) :
    c = '+' ∨ isDigit c = true := by
  rcases Option.map_eq_some_iff.mp h with ⟨n, hn, _⟩
  have hread := (Option.filter_eq_some_iff.mp hn).left
  unfold dropPlus at hread
  split at hread
  · rcases List.mem_cons.mp hc with rfl | hc
    · exact Or.inl rfl
    · exact Or.inr (isDigit_of_natural? hread hc)
  · exact Or.inr (isDigit_of_natural? hread hc)

theorem colon_notMem_of_port? (h : port? digits = some port) : ':' ∉ digits := by
  intro hmem
  rcases eq_plus_or_isDigit_of_port? h hmem with hplus | hdigit
  · cases hplus
  · cases hdigit

end Number

namespace Address

open Text

/-- A host that is no IPv6 address. -/
def IsName (host : List Char) : Prop :=
  host ≠ [] ∧ ':' ∉ host ∧ host.head? ≠ some '['

/-- The text names the host, and the port where it has one. -/
inductive Written : List Char -> List Char -> Option UInt16 -> Prop where
  | bracketed {v6 : List Char} :
      Net.isIpv6 v6 = true ->
      Written ('[' :: (v6 ++ [']'])) v6 none
  | bracketedPort {v6 digits : List Char} {port : UInt16} :
      Net.isIpv6 v6 = true ->
      Number.port? digits = some port ->
      Written ('[' :: (v6 ++ ']' :: ':' :: digits)) v6 (some port)
  | bare {v6 : List Char} :
      Net.isIpv6 v6 = true ->
      Written v6 v6 none
  | named {host : List Char} :
      IsName host ->
      Written host host none
  | namedPort {host digits : List Char} {port : UInt16} :
      IsName host ->
      Number.port? digits = some port ->
      Written (host ++ ':' :: digits) host (some port)

variable {s t host v6 digits : List Char} {port : Option UInt16} {p : UInt16}

/-!
## What is read is written
-/

theorem written_of_splitBracketed (h : splitBracketed s = some (host, port)) :
    Written ('[' :: s) host port := by
  unfold splitBracketed at h
  split at h
  · cases h
  · rename_i v6 tail hcut
    rcases cutFirst_eq_some_iff.mp hcut with ⟨rfl, _⟩
    split at h
    · rename_i hv6
      split at h
      · cases h
        exact .bracketed hv6
      · rename_i digits
        rcases Option.map_eq_some_iff.mp h with ⟨p, hp, heq⟩
        cases heq
        exact .bracketedPort hv6 hp
      · cases h
    · cases h

theorem written_of_splitPlain (hs : s.head? ≠ some '[') (h : splitPlain s = some (host, port)) :
    Written s host port := by
  unfold splitPlain at h
  split at h
  · rename_i name digits hcut
    rcases cutLast_eq_some_iff.mp hcut with ⟨rfl, _⟩
    split at h
    · cases h
    · rename_i hname
      rw [not_or] at hname
      rcases Option.map_eq_some_iff.mp h with ⟨p, hp, heq⟩
      cases heq
      refine .namedPort ⟨hname.left, hname.right, ?_⟩ hp
      intro hhead
      apply hs
      rw [List.head?_append, hhead]
      rfl
  · rename_i hcut
    split at h
    · cases h
    · rename_i hne
      cases h
      exact .named ⟨fun hnil => hne (List.isEmpty_iff.mpr hnil), cutLast_eq_none_iff.mp hcut, hs⟩

theorem splitHostPort_of_head? (hs : s.head? ≠ some '[') :
    splitHostPort s = if Net.isIpv6 s then some (s, none) else splitPlain s := by
  unfold splitHostPort
  split
  · exact absurd rfl hs
  · rfl

theorem written_of_splitHostPort (h : splitHostPort s = some (host, port)) :
    Written s host port := by
  by_cases hs : s.head? = some '['
  · rcases List.head?_eq_some_iff.mp hs with ⟨rest, rfl⟩
    exact written_of_splitBracketed h
  · rw [splitHostPort_of_head? hs] at h
    split at h
    · rename_i hv6
      cases h
      exact .bare hv6
    · exact written_of_splitPlain hs h

/-!
## What is written is read
-/

theorem bracket_notMem_of_isIpv6 (hv6 : Net.isIpv6 v6 = true) : ']' ∉ v6 :=
  Net.notMem_of_isIpv6 hv6 rfl

theorem splitBracketed_of_isIpv6 (hv6 : Net.isIpv6 v6 = true) (t : List Char) :
    splitBracketed (v6 ++ ']' :: t) =
      match t with
      | [] => some (v6, none)
      | ':' :: digits => (Number.port? digits).map fun port => (v6, some port)
      | _ => none := by
  have hcut : cutFirst ']' (v6 ++ ']' :: t) = some (v6, t) :=
    cutFirst_eq_some_iff.mpr ⟨rfl, bracket_notMem_of_isIpv6 hv6⟩
  unfold splitBracketed
  rw [hcut]
  exact if_pos hv6

theorem splitHostPort_of_isIpv6 (hv6 : Net.isIpv6 v6 = true) :
    splitHostPort v6 = some (v6, none) := by
  have hs : v6.head? ≠ some '[' := by
    intro hhead
    exact Net.notMem_of_isIpv6 hv6 rfl (List.mem_of_head? hhead)
  rw [splitHostPort_of_head? hs, if_pos hv6]

theorem splitHostPort_of_isName (hname : IsName host) : splitHostPort host = some (host, none) := by
  rcases hname with ⟨hne, hcolon, hs⟩
  have hv6 : ¬Net.isIpv6 host = true := fun hv6 => hcolon (Net.colon_mem_of_isIpv6 hv6)
  rw [splitHostPort_of_head? hs, if_neg hv6]
  unfold splitPlain
  rw [cutLast_eq_none_iff.mpr hcolon]
  exact if_neg fun hempty => hne (List.isEmpty_iff.mp hempty)

theorem splitHostPort_of_isName_port (hname : IsName host) (hp : Number.port? digits = some p) :
    splitHostPort (host ++ ':' :: digits) = some (host, some p) := by
  rcases hname with ⟨hne, hcolon, hhead⟩
  have hdigits := Number.colon_notMem_of_port? hp
  have hs : (host ++ ':' :: digits).head? ≠ some '[' := by
    rwa [List.head?_append_of_ne_nil _ hne]
  -- One colon is too few for an IPv6 address.
  have hv6 : ¬Net.isIpv6 (host ++ ':' :: digits) = true := by
    intro hv6
    have hcount := Net.two_le_count_colon hv6
    rw [List.count_append, List.count_cons_self, List.count_eq_zero.mpr hcolon,
      List.count_eq_zero.mpr hdigits] at hcount
    exact absurd hcount (by decide)
  have hcut : cutLast ':' (host ++ ':' :: digits) = some (host, digits) :=
    cutLast_eq_some_iff.mpr ⟨rfl, hdigits⟩
  rw [splitHostPort_of_head? hs, if_neg hv6]
  unfold splitPlain
  rw [hcut]
  dsimp only
  rw [if_neg (not_or.mpr ⟨hne, hcolon⟩), hp]
  rfl

theorem splitHostPort_of_written (h : Written s host port) :
    splitHostPort s = some (host, port) := by
  cases h with
  | bracketed hv6 => exact splitBracketed_of_isIpv6 hv6 []
  | bracketedPort hv6 hp =>
      rename_i digits p
      refine (splitBracketed_of_isIpv6 hv6 _).trans ?_
      show (Number.port? digits).map (fun port => (host, some port)) = some (host, some p)
      rw [hp]
      rfl
  | bare hv6 => exact splitHostPort_of_isIpv6 hv6
  | named hname => exact splitHostPort_of_isName hname
  | namedPort hname hp => exact splitHostPort_of_isName_port hname hp

theorem splitHostPort_eq_some_iff : splitHostPort s = some (host, port) <-> Written s host port :=
  ⟨written_of_splitHostPort, splitHostPort_of_written⟩

/-- The last group of an IPv6 address is no port. -/
example : splitHostPort [':', ':', '1', ':', '8'] = some ([':', ':', '1', ':', '8'], none) := by
  decide +kernel

/-!
## Hosts

A host is an IPv6 address or a name. In a text without blanks before it the host begins with no
blank either.
-/

/-- A host is an IPv6 address or a name. -/
theorem Written.host_cases (h : Written s host port) : Net.isIpv6 host = true ∨ IsName host := by
  cases h with
  | bracketed hv6 => exact Or.inl hv6
  | bracketedPort hv6 _ => exact Or.inl hv6
  | bare hv6 => exact Or.inl hv6
  | named hname => exact Or.inr hname
  | namedPort hname _ => exact Or.inr hname

theorem Written.colon_mem_iff (h : Written s host port) :
    ':' ∈ host <-> Net.isIpv6 host = true := by
  refine ⟨fun hcolon => ?_, Net.colon_mem_of_isIpv6⟩
  rcases h.host_cases with hv6 | hname
  · exact hv6
  · exact absurd hcolon hname.right.left

theorem Written.host_ne_nil (h : Written s host port) : host ≠ [] := by
  rcases h.host_cases with hv6 | hname
  · exact Net.ne_nil_of_isIpv6 hv6
  · exact hname.left

theorem Written.head?_ne (h : Written s host port) : host.head? ≠ some '[' := by
  rcases h.host_cases with hv6 | hname
  · intro hhead
    exact Net.notMem_of_isIpv6 hv6 rfl (List.mem_of_head? hhead)
  · exact hname.right.right

theorem Written.isBlank_head? (h : Written (trimChars t) host port) {c : Char}
    (hc : host.head? = some c) : isBlank c = false := by
  rcases h.host_cases with hv6 | ⟨hne, hcolon, _⟩
  · exact Net.isBlank_of_isIpv6 hv6 (List.mem_of_head? hc)
  · generalize hs : trimChars t = s at h
    cases h with
    | bracketed hv6 => exact absurd (Net.colon_mem_of_isIpv6 hv6) hcolon
    | bracketedPort hv6 _ => exact absurd (Net.colon_mem_of_isIpv6 hv6) hcolon
    | bare hv6 => exact absurd (Net.colon_mem_of_isIpv6 hv6) hcolon
    | named _ => exact trimChars_head? (hs ▸ hc)
    | namedPort _ _ =>
        apply trimChars_head? (s := t)
        rw [hs, List.head?_append, hc]
        rfl

/-!
## Reading
-/

theorem parseWithDefault_eq_ok_iff {text : String} {d : UInt16} {a : Address} :
    parseWithDefault text d = .ok a <->
      exists host port, Written (trimChars text.toList) host port ∧
        a = ofHostPort host (port.getD d) := by
  unfold parseWithDefault
  simp only [← splitHostPort_eq_some_iff]
  constructor
  · intro h
    split at h
    · rename_i host port hsplit
      cases h
      exact ⟨host, port, hsplit, rfl⟩
    · cases h
  · rintro ⟨host, port, hsplit, rfl⟩
    rw [hsplit]

theorem parse_eq_ok_iff {text : String} {a : Address} :
    parse text = .ok a <->
      exists host port, Written (trimChars text.toList) host (some port) ∧
        a = ofHostPort host port := by
  unfold parse
  simp only [← splitHostPort_eq_some_iff]
  constructor
  · intro h
    split at h
    · rename_i host port hsplit
      cases h
      exact ⟨host, port, hsplit, rfl⟩
    · cases h
    · cases h
  · rintro ⟨host, port, hsplit, rfl⟩
    rw [hsplit]

/-- Both readers accept exactly what the grammar writes, and no text is written in two ways. A host
is not empty, begins neither with a bracket nor with a blank, and has a colon exactly if it is an
IPv6 address. -/
theorem reads_grammar (text : String) (d : UInt16) :
    (forall a, parseWithDefault text d = .ok a <->
      exists host port, Written (trimChars text.toList) host port ∧
        a = { host := String.ofList host, port := port.getD d,
              isInternal := false, isSelf := false }) ∧
    (forall a, parse text = .ok a <->
      exists host port, Written (trimChars text.toList) host (some port) ∧
        a = { host := String.ofList host, port, isInternal := false, isSelf := false }) ∧
    (forall t host host' port port', Written t host port -> Written t host' port' ->
      host = host' ∧ port = port') ∧
    forall a, parseWithDefault text d = .ok a ∨ parse text = .ok a ->
      a.host ≠ "" ∧ a.host.toList.head? ≠ some '[' ∧
        (forall c, a.host.toList.head? = some c -> isBlank c = false) ∧
        (':' ∈ a.host.toList <-> Net.isIpv6 a.host.toList = true) := by
  refine ⟨fun a => parseWithDefault_eq_ok_iff, fun a => parse_eq_ok_iff, ?_, ?_⟩
  · intro t host host' port port' h h'
    have hsame := (splitHostPort_of_written h).symm.trans (splitHostPort_of_written h')
    cases hsame
    exact ⟨rfl, rfl⟩
  · intro a ha
    have hwritten : exists host port, Written (trimChars text.toList) host port ∧
        a.host = String.ofList host := by
      rcases ha with ha | ha
      · rcases parseWithDefault_eq_ok_iff.mp ha with ⟨host, port, h, rfl⟩
        exact ⟨host, port, h, rfl⟩
      · rcases parse_eq_ok_iff.mp ha with ⟨host, port, h, rfl⟩
        exact ⟨host, some port, h, rfl⟩
    rcases hwritten with ⟨host, port, h, hhost⟩
    rw [hhost, String.toList_ofList]
    refine ⟨?_, h.head?_ne, fun c => h.isBlank_head?, h.colon_mem_iff⟩
    intro hempty
    exact h.host_ne_nil (by simpa using congrArg String.toList hempty)

end Address
end ClusterNode
