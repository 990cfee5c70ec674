import ClusterNode.Net.Ip
import ClusterNode.Proofs.Text.Cuts

/-!
# The characters of an IPv6 address

The text of an IPv6 address has at least two colons and consists of hexadecimal digits, colons and
dots. So it has no bracket, no blank and none of the characters that separate the entries of a list,
and no text with one colon only is an IPv6 address.
-/

namespace ClusterNode

/-!
## Digits

Digits and letters, and what stands between them, are not blank.
-/

namespace Number

variable {s : List Char} {c : Char} {n value bound : Nat}

theorem isDigit_of_readDigits (h : readDigits value s = some n) (hc : c ∈ s) :
    isDigit c = true := by
  induction s generalizing value with
  | nil => cases hc
  | cons d rest ih =>
      rcases Option.bind_eq_some_iff.mp h with ⟨digit, hdigit, hrest⟩
      rcases List.mem_cons.mp hc with rfl | hc
      · exact Option.isSome_of_eq_some hdigit
      · exact ih hrest hc

theorem isDigit_of_natural? (h : natural? s = some n) (hc : c ∈ s) : isDigit c = true := by
  unfold natural? at h
  split at h
  · cases h
  · exact isDigit_of_readDigits h hc

end Number

namespace Net

open Number

variable {s before after : List Char} {c : Char} {pieces : List (List Char)} {gs : List UInt16}

/-- The characters that an IP address is written with. -/
def isIpChar (c : Char) : Bool := (hexValue? c).isSome || c == ':' || c == '.'

theorem isIpChar_of_hexValue? (h : (hexValue? c).isSome = true) : isIpChar c = true := by
  unfold isIpChar
  rw [h]
  rfl

theorem isIpChar_of_isDigit (h : isDigit c = true) : isIpChar c = true := by
  apply isIpChar_of_hexValue?
  unfold isDigit digit? at h
  unfold hexValue?
  split
  · rfl
  · rename_i hrange
    rw [if_neg hrange] at h
    cases h

theorem isBlank_of_isIpChar (h : isIpChar c = true) : Text.isBlank c = false := by
  have hrange : 46 ≤ c.toNat ∧ c.toNat ≤ 102 := by
    simp only [isIpChar, hexValue?, Bool.or_eq_true, beq_iff_eq] at h
    rcases h with (h | rfl) | rfl
    · split_ifs at h with hdigit hlower hupper
      · exact ⟨Nat.le_trans (by decide) hdigit.left, Nat.le_trans hdigit.right (by decide)⟩
      · exact ⟨Nat.le_trans (by decide) hlower.left, Nat.le_trans hlower.right (by decide)⟩
      · exact ⟨Nat.le_trans (by decide) hupper.left, Nat.le_trans hupper.right (by decide)⟩
      · cases h
    · decide
    · decide
  simp only [Text.isBlank]
  generalize c.toNat = n at hrange
  simp
  omega

/-!
## The parts of an address

Each piece has its group, except that the last one may have two. Between colons stand the characters
of the pieces.
-/

theorem isIpChar_of_octet? {octet : UInt8} (h : octet? s = some octet) (hc : c ∈ s) :
    isIpChar c = true := by
  unfold octet? at h
  split at h
  · rcases Option.map_eq_some_iff.mp h with ⟨n, hn, _⟩
    exact isIpChar_of_isDigit (isDigit_of_natural? (Option.filter_eq_some_iff.mp hn).left hc)
  · cases h

theorem isIpChar_of_ipv4 {ip : Ipv4} (h : Ipv4.ofChars? s = some ip) (hc : c ∈ s) :
    isIpChar c = true := by
  unfold Ipv4.ofChars? at h
  split at h
  · rename_i a b d e hpieces
    simp only [Option.bind_eq_bind, Option.bind_eq_some_iff] at h
    rcases h with ⟨_, ha, _, hb, _, hd, _, he, _⟩
    rcases Text.eq_or_mem_piece '.' hc with rfl | ⟨piece, hpiece, hc⟩
    · rfl
    · rw [hpieces] at hpiece
      simp only [List.mem_cons, List.not_mem_nil, or_false] at hpiece
      rcases hpiece with rfl | rfl | rfl | rfl
      · exact isIpChar_of_octet? ha hc
      · exact isIpChar_of_octet? hb hc
      · exact isIpChar_of_octet? hd hc
      · exact isIpChar_of_octet? he hc
  · cases h

theorem isIpChar_of_readHex {value n : Nat} (h : readHex value s = some n) (hc : c ∈ s) :
    isIpChar c = true := by
  induction s generalizing value with
  | nil => cases hc
  | cons d rest ih =>
      rcases Option.bind_eq_some_iff.mp h with ⟨digit, hdigit, hrest⟩
      rcases List.mem_cons.mp hc with rfl | hc
      · exact isIpChar_of_hexValue? (Option.isSome_of_eq_some hdigit)
      · exact ih hrest hc

theorem isIpChar_of_group? {g : UInt16} (h : group? s = some g) (hc : c ∈ s) :
    isIpChar c = true := by
  unfold group? at h
  split at h
  · cases h
  · rcases Option.map_eq_some_iff.mp h with ⟨n, hn, _⟩
    exact isIpChar_of_readHex hn hc

theorem isIpChar_of_groups (h : pieces.mapM group? = some gs) :
    forall piece, piece ∈ pieces -> forall c, c ∈ piece -> isIpChar c = true := by
  induction pieces generalizing gs with
  | nil =>
      intro piece hpiece
      cases hpiece
  | cons first rest ih =>
      simp only [List.mapM_cons, Option.bind_eq_bind, Option.bind_eq_some_iff] at h
      rcases h with ⟨g, hfirst, more, hrest, _⟩
      intro piece hpiece c hc
      rcases List.mem_cons.mp hpiece with rfl | hpiece
      · exact isIpChar_of_group? hfirst hc
      · exact ih hrest piece hpiece c hc

theorem groupsOfPieces?_eq_some (h : groupsOfPieces? pieces = some gs) :
    (forall piece, piece ∈ pieces -> forall c, c ∈ piece -> isIpChar c = true) ∧
      gs.length ≤ pieces.length + 1 := by
  fun_induction groupsOfPieces? pieces generalizing gs with
  | case1 =>
      cases h
      exact ⟨fun piece hpiece => absurd hpiece List.not_mem_nil, Nat.zero_le 1⟩
  | case2 last g hlast =>
      cases h
      refine ⟨fun piece hpiece c hc => ?_, Nat.le_succ 1⟩
      rw [List.mem_singleton.mp hpiece] at hc
      exact isIpChar_of_group? hlast hc
  | case3 last hlast =>
      rcases Option.map_eq_some_iff.mp h with ⟨ip, hip, rfl⟩
      refine ⟨fun piece hpiece c hc => ?_, Nat.le_refl 2⟩
      rw [List.mem_singleton.mp hpiece] at hc
      exact isIpChar_of_ipv4 hip hc
  | case4 first rest hrest ih =>
      simp only [Option.bind_eq_bind, Option.bind_eq_some_iff] at h
      rcases h with ⟨g, hfirst, more, hmore, hgs⟩
      cases hgs
      rcases ih hmore with ⟨hchars, hlength⟩
      refine ⟨fun piece hpiece c hc => ?_, Nat.succ_le_succ hlength⟩
      rcases List.mem_cons.mp hpiece with rfl | hpiece
      · exact isIpChar_of_group? hfirst hc
      · exact hchars piece hpiece c hc

theorem isIpChar_of_pieces
    (h : forall piece, piece ∈ Text.pieces ':' s -> forall c, c ∈ piece -> isIpChar c = true)
    (hc : c ∈ s) : isIpChar c = true := by
  rcases Text.eq_or_mem_piece ':' hc with rfl | ⟨piece, hpiece, hc⟩
  · rfl
  · exact h piece hpiece c hc

theorem cutColons_eq_some (h : cutColons s = some (before, after)) :
    s = before ++ ':' :: ':' :: after := by
  fun_induction cutColons s generalizing before with
  | case1 rest =>
      cases h
      rfl
  | case2 => cases h
  | case3 c rest _ ih =>
      rcases Option.map_eq_some_iff.mp h with ⟨⟨before', after'⟩, hrest, heq⟩
      cases heq
      rw [ih hrest]
      rfl

/-!
## The whole address

The address is cut at two colons, or it is one list of pieces.
-/

theorem ipv6Groups?_cases (h : ipv6Groups? s = some gs) :
    (exists before after, s = before ++ ':' :: ':' :: after ∧
      (exists head, headGroups? before = some head) ∧
      exists tail, tailGroups? after = some tail) ∨
    groupsOfPieces? (Text.pieces ':' s) = some gs := by
  unfold ipv6Groups? at h
  split at h
  · exact Or.inr h
  · rename_i before after hcut
    simp only [Option.bind_eq_bind, Option.bind_eq_some_iff] at h
    rcases h with ⟨head, hhead, tail, htail, _⟩
    exact Or.inl ⟨before, after, cutColons_eq_some hcut, ⟨head, hhead⟩, tail, htail⟩

theorem exists_groups_of_isIpv6 (h : isIpv6 s = true) :
    exists gs, ipv6Groups? s = some gs ∧ gs.length = 8 := by
  unfold isIpv6 Ipv6.ofChars? at h
  split at h
  · rename_i gs hgs
    split at h
    · rename_i hlength
      exact ⟨gs, hgs, hlength⟩
    · cases h
  · cases h

theorem isIpChar_of_isIpv6 (h : isIpv6 s = true) (hc : c ∈ s) : isIpChar c = true := by
  rcases exists_groups_of_isIpv6 h with ⟨gs, hgs, _⟩
  rcases ipv6Groups?_cases hgs with ⟨before, after, rfl, ⟨head, hhead⟩, tail, htail⟩ | hpieces
  · unfold headGroups? at hhead
    unfold tailGroups? at htail
    rcases List.mem_append.mp hc with hbefore | hc
    · split at hhead
      · rename_i hempty
        rw [List.isEmpty_iff.mp hempty] at hbefore
        cases hbefore
      · exact isIpChar_of_pieces (isIpChar_of_groups hhead) hbefore
    · rcases List.mem_cons.mp hc with rfl | hc
      · rfl
      · rcases List.mem_cons.mp hc with rfl | hafter
        · rfl
        · split at htail
          · rename_i hempty
            rw [List.isEmpty_iff.mp hempty] at hafter
            cases hafter
          · exact isIpChar_of_pieces (groupsOfPieces?_eq_some htail).left hafter
  · exact isIpChar_of_pieces (groupsOfPieces?_eq_some hpieces).left hc

theorem notMem_of_isIpv6 (h : isIpv6 s = true) (hc : isIpChar c = false) : c ∉ s := by
  intro hmem
  cases hc.symm.trans (isIpChar_of_isIpv6 h hmem)

theorem isBlank_of_isIpv6 (h : isIpv6 s = true) (hc : c ∈ s) : Text.isBlank c = false :=
  isBlank_of_isIpChar (isIpChar_of_isIpv6 h hc)

theorem two_le_count_colon (h : isIpv6 s = true) : 2 ≤ s.count ':' := by
  rcases exists_groups_of_isIpv6 h with ⟨gs, hgs, hlength⟩
  rcases ipv6Groups?_cases hgs with ⟨before, after, rfl, _⟩ | hpieces
  · rw [List.count_append, List.count_cons_self, List.count_cons_self]
    omega
  · have hle := (groupsOfPieces?_eq_some hpieces).right
    rw [Text.length_pieces] at hle
    omega

theorem colon_mem_of_isIpv6 (h : isIpv6 s = true) : ':' ∈ s :=
  List.count_pos_iff.mp (Nat.lt_of_lt_of_le Nat.zero_lt_two (two_le_count_colon h))

theorem ne_nil_of_isIpv6 (h : isIpv6 s = true) : s ≠ [] :=
  List.ne_nil_of_mem (colon_mem_of_isIpv6 h)

end Net
end ClusterNode
