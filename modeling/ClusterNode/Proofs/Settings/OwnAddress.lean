import ClusterNode.Builtin.Core
import ClusterNode.Proofs.Membership.Display
import ClusterNode.Proofs.Reconciler.Topology

/-!
# A node among the members

A member is written with its host and port in one text, settings hold the two apart. For a name both
give the same address. In the one text an IPv6 address with a port stands in brackets, which are not
part of the host. The settings keep a host as it is written, so they give the same address when they
have it without the brackets, and another one when they have them. A node whose settings give the
address of a member finds itself among the members.
-/

namespace ClusterNode

open Text

/-!
## Host and port of one text

The last colon is the one before the port, and the host in the settings has no blanks around it
either.
-/

namespace Address

variable {host : String} {port : UInt16} {a : Address}

/-- The host of a text as settings hold it: without the brackets around an IPv6 address. -/
inductive Bare : String -> String -> Prop
  | name {host : String} : host.toList.head? ≠ some '[' -> Bare host host
  | bracketed {v6 : String} : Net.isIpv6 v6.toList = true -> Bare ("[" ++ v6 ++ "]") v6

def joined (host : String) (port : UInt16) : String := host ++ ":" ++ toString port.toNat

theorem toList_joined (host : String) (port : UInt16) :
    (joined host port).toList = host.toList ++ ':' :: (toString port.toNat).toList := by
  simp [joined]

theorem colon_notMem_toString (port : UInt16) : ':' ∉ (toString port.toNat).toList :=
  Number.colon_notMem_of_port? (Number.port?_toString port)

theorem trimChars_joined (htrim : trim host = host) (port : UInt16) :
    trimChars (joined host port).toList = (joined host port).toList := by
  have hhost : trimChars host.toList = host.toList := by rw [← toList_trim, htrim]
  rw [toList_joined]
  apply trimChars_eq_self
  · intro c hc
    cases hchars : host.toList with
    | nil =>
        rw [hchars] at hc
        cases hc
        rfl
    | cons first rest =>
        apply trimChars_head? (s := host.toList)
        rw [hchars] at hc
        rw [hhost, hchars]
        exact hc
  · intro c hc
    rw [List.getLast?_append_of_ne_nil _ (List.cons_ne_nil _ _),
      List.getLast?_cons_of_ne_nil (Number.toList_toString_ne_nil _)] at hc
    exact isBlank_of_isDigit (Number.isDigit_of_mem_toString (List.mem_of_getLast? hc))

theorem eq_of_append_port {front digits : List Char} {q : UInt16}
    (hdigits : Number.port? digits = some q)
    (h : front ++ ':' :: digits = (joined host port).toList) :
    front = host.toList ∧ q = port := by
  rw [toList_joined] at h
  have hcut : cutLast ':' (front ++ ':' :: digits) = some (front, digits) :=
    cutLast_eq_some_iff.mpr ⟨rfl, Number.colon_notMem_of_port? hdigits⟩
  rw [h, cutLast_eq_some_iff.mpr ⟨rfl, colon_notMem_toString port⟩] at hcut
  rcases Prod.mk.inj (Option.some.inj hcut) with ⟨hfront, hsame⟩
  rw [← hsame, Number.port?_toString] at hdigits
  exact ⟨hfront.symm, (Option.some.inj hdigits).symm⟩

/-- The address that is read has the bare host, and it is shown as it was written. -/
theorem bare_of_parse (htrim : trim host = host) (h : parse (joined host port) = .ok a) :
    Bare host a.host ∧ a = { host := a.host, port } ∧ a.toText = joined host port := by
  rcases parse_eq_ok_iff.mp h with ⟨v, q, hwritten, rfl⟩
  rw [trimChars_joined htrim] at hwritten
  generalize htext : (joined host port).toList = text at hwritten
  cases hwritten with
  | @bracketedPort _ digits _ hv6 hdigits =>
      have hsplit : ('[' :: (v ++ [']'])) ++ ':' :: digits = (joined host port).toList := by
        rw [htext]
        simp
      rcases eq_of_append_port hdigits hsplit with ⟨hhost, rfl⟩
      have hbrackets : host = "[" ++ String.ofList v ++ "]" := by
        apply String.toList_injective
        rw [← hhost]
        simp
      refine ⟨?_, rfl, ?_⟩
      · rw [hbrackets]
        exact .bracketed (by rw [String.toList_ofList]; exact hv6)
      · apply String.toList_injective
        rw [toList_toText, toList_joined, ← hhost, ofHostPort, String.toList_ofList,
          if_pos (Net.colon_mem_of_isIpv6 hv6)]
        simp
  | namedPort hname hdigits =>
      rcases eq_of_append_port hdigits htext.symm with ⟨rfl, rfl⟩
      refine ⟨?_, rfl, ?_⟩
      · rw [ofHostPort, String.ofList_toList]
        exact .name hname.right.right
      · apply String.toList_injective
        rw [toList_toText, toList_joined, ofHostPort, String.ofList_toList,
          if_neg hname.right.left]

theorem parseWithDefault_of_parse {text : String} (h : parse text = .ok a) (d : UInt16) :
    parseWithDefault text d = .ok a := by
  rcases parse_eq_ok_iff.mp h with ⟨v, q, hwritten, rfl⟩
  exact parseWithDefault_eq_ok_iff.mpr ⟨v, some q, hwritten, rfl⟩

theorem host_ne_empty_of_parse {text : String} (h : parse text = .ok a) : a.host ≠ "" := by
  rcases parse_eq_ok_iff.mp h with ⟨v, q, hwritten, rfl⟩
  intro hempty
  exact hwritten.host_ne_nil (by simpa [ofHostPort] using congrArg String.toList hempty)

theorem Bare.mem {bare : String} (h : Bare host bare) {c : Char} (hc : c ∈ bare.toList) :
    c ∈ host.toList := by
  cases h with
  | name _ => exact hc
  | bracketed _ => simp [hc]

theorem Bare.unique {bare bare' : String} (h : Bare host bare) (h' : Bare host bare') :
    bare = bare' := by
  cases h with
  | name hhead =>
      cases h' with
      | name _ => rfl
      | bracketed _ => exact absurd (by simp) hhead
  | bracketed _ =>
      generalize htext : "[" ++ bare ++ "]" = text at h'
      cases h' with
      | name hhead => exact absurd (by simp [← htext]) hhead
      | bracketed _ =>
          apply String.toList_injective
          simpa using congrArg String.toList htext

theorem Bare.trim_eq {bare : String} (h : Bare host bare) (htrim : trim host = host) :
    trim bare = bare := by
  cases h with
  | name _ => exact htrim
  | bracketed hv6 =>
      have hblank : forall c, c ∈ bare.toList -> isBlank c = false := fun c hc =>
        Net.isBlank_of_isIpv6 hv6 hc
      rw [trim, trimChars_eq_self (fun c hc => hblank c (List.mem_of_head? hc))
        (fun c hc => hblank c (List.mem_of_getLast? hc)), String.ofList_toList]

end Address

/-!
## Settings
-/

namespace CoreSettings

variable {host : String} {port : UInt16} {a : Address} {s : CoreSettings}

/-- The settings give this host and port, for traffic inside the cluster or, without such an
address, for everything. -/
def Gives (s : CoreSettings) (host : String) (port : UInt16) : Prop :=
  s.internalHost = host ∧ s.internalPort = port ∨
    s.internalAddress? = none ∧ s.host = host ∧ s.port = port

def own (s : CoreSettings) (machineHost : String) : Address :=
  (CoreModule.reconciler s).announced (s.advertised machineHost)

/-- A host and a port in the settings stand for an address. -/
structure Names (host : String) (port : UInt16) (a : Address) : Prop where
  /-- As the address that others are told. -/
  advertised : forall s : CoreSettings, s.host = host -> s.port = port -> forall machineHost,
    (s.advertised machineHost).key = a.key
  /-- As the address for traffic inside the cluster. -/
  internal : forall s : CoreSettings, s.internalHost = host -> s.internalPort = port ->
    exists b, s.internalAddress? = some b ∧ b.key = a.key
  /-- As the address that the node registers. -/
  registered : forall s : CoreSettings, s.Gives host port -> forall machineHost,
    (s.own machineHost).key = a.key
  /-- The node finds itself among members that have the address, and nobody else. -/
  recognized : forall s : CoreSettings, s.Gives host port -> forall machineHost queried,
    a.key ∈ queried.map Address.key ->
    exists b, b ∈ Topology.normalize (some (s.own machineHost)) queried ∧ b.key = a.key ∧
      forall c, c ∈ Topology.normalize (some (s.own machineHost)) queried ->
        (c.isSelf = true <-> c = b)

theorem toList_ne_nil_of_ne_empty (hne : host ≠ "") : host.toList ≠ [] := by
  intro hnil
  apply hne
  apply String.toList_injective
  rw [hnil]
  rfl

theorem advertised_eq (htrim : trim host = host) (hne : host ≠ "") (hhost : s.host = host)
    (hport : s.port = port) (machineHost : String) :
    s.advertised machineHost = { host, port } := by
  have hvisible : isBlankText host = false := by
    rw [isBlankText, ← toList_trim, htrim, List.isEmpty_eq_false_iff]
    exact toList_ne_nil_of_ne_empty hne
  unfold advertised configuredHost?
  rw [hhost, hvisible, htrim, hport]
  rfl

theorem internalAddress?_eq (htrim : trim host = host) (hne : host ≠ "") (hpositive : 0 < port)
    (hhost : s.internalHost = host) (hport : s.internalPort = port) :
    s.internalAddress? = some { host, port, isInternal := true } := by
  have hsome : (host.isEmpty || port == 0) = false := by
    rw [Bool.or_eq_false_iff, String.isEmpty_eq_false_iff, beq_eq_false_iff_ne]
    refine ⟨hne, ?_⟩
    rintro rfl
    exact UInt16.lt_irrefl 0 hpositive
  unfold internalAddress?
  rw [hhost, htrim, hport]
  dsimp only
  rw [hsome]
  rfl

theorem own_eq (s : CoreSettings) (machineHost : String) :
    s.own machineHost =
      match s.internalAddress? with
      | some internal => (internal.withInternal true).withSelf true
      | none => (s.advertised machineHost).withSelf true := by
  unfold own CoreModule.reconciler Reconciler.create Reconciler.announced
  cases s.internalAddress? with
  | some internal => rfl
  | none => rfl

theorem key_own (htrim : trim host = host) (hne : host ≠ "") (hpositive : 0 < port)
    (h : s.Gives host port) (machineHost : String) : (s.own machineHost).key = (host, port) := by
  rw [own_eq]
  rcases h with ⟨hhost, hport⟩ | ⟨hnone, hhost, hport⟩
  · rw [internalAddress?_eq htrim hne hpositive hhost hport]
    rfl
  · rw [hnone]
    exact congrArg Address.key (advertised_eq htrim hne hhost hport machineHost)

theorem exists_self {self : Address} {queried : List Address}
    (h : self.key ∈ queried.map Address.key) :
    exists b, b ∈ Topology.normalize (some self) queried ∧ b.key = self.key ∧
      forall c, c ∈ Topology.normalize (some self) queried -> (c.isSelf = true <-> c = b) := by
  rw [← Topology.mem_key_normalize (some self), List.mem_map] at h
  rcases h with ⟨b, hb, hkey⟩
  have hself : forall {c}, c ∈ Topology.normalize (some self) queried ->
      (c.isSelf = true <-> c.key = self.key) := by
    intro c hc
    rw [Topology.isSelf_of_mem_normalize hc, Topology.isRegistered_iff, Option.map_some,
      Option.some.injEq, eq_comm]
  refine ⟨b, hb, hkey, fun c hc => ?_⟩
  rw [hself hc]
  constructor
  · intro hsame
    have hdistinct : ((Topology.normalize (some self) queried).map Address.key).Nodup :=
      List.pairwise_map.mpr ((Topology.ranked_normalize (some self) queried).imp
        fun hranked => Topology.key_ne_of_precedes hranked.left)
    exact List.inj_on_of_nodup_map hdistinct hc hb (hsame.trans hkey.symm)
  · rintro rfl
    exact hkey

theorem names_of_trim (htrim : trim host = host) (hne : host ≠ "") (hpositive : 0 < port) :
    Names host port { host, port } where
  advertised _ hhost hport machineHost :=
    congrArg Address.key (advertised_eq htrim hne hhost hport machineHost)
  internal _ hhost hport := ⟨_, internalAddress?_eq htrim hne hpositive hhost hport, rfl⟩
  registered _ hgives machineHost := key_own htrim hne hpositive hgives machineHost
  recognized s hgives machineHost queried hmember := by
    have hkey := key_own htrim hne hpositive hgives machineHost
    rw [show Address.key { host, port } = (s.own machineHost).key from hkey.symm] at hmember ⊢
    exact exists_self hmember

/-- Where host and port in one text are a member, settings that give the two apart name the same
address: with the host as it is written, or, if that is an IPv6 address in brackets, without them. A
list with the text among its members holds the address, unless a comma or a question mark cuts the
text. -/
theorem names_member (htrim : trim host = host) (hpositive : 0 < port)
    (hread : Address.parse (Address.joined host port) = .ok a) :
    (exists bare, Address.Bare host bare) ∧
    (forall bare, Address.Bare host bare -> Names bare port a) ∧
    (',' ∉ host.toList -> '?' ∉ host.toList -> forall (before after : List String)
      (defaultPort : UInt16) (memberFile : Option String) (read : FileReader),
      exists queried warnings,
        FixedMembers.query { members := before ++ Address.joined host port :: after, memberFile,
                             defaultPort } read = (.ok queried, warnings) ∧
          a.key ∈ queried.map Address.key) := by
  rcases Address.bare_of_parse htrim hread with ⟨hbare, ha, htext⟩
  refine ⟨⟨a.host, hbare⟩, ?_, ?_⟩
  · intro bare hbare'
    have hnames := names_of_trim (hbare.trim_eq htrim) (Address.host_ne_empty_of_parse hread)
      hpositive
    rw [← ha] at hnames
    rw [hbare'.unique hbare]
    exact hnames
  · intro hcomma hmark before after defaultPort memberFile read
    have hread' := Address.parseWithDefault_of_parse hread defaultPort
    rcases FixedMembers.query_among hread' (fun hc => hcomma (hbare.mem hc))
      (fun hc => hmark (hbare.mem hc)) defaultPort memberFile read before after with
      ⟨xs, ys, warnings, later, _, _, hquery⟩
    rw [htext] at hquery
    exact ⟨_, _, hquery, List.mem_map_of_mem (List.mem_append_right _ List.mem_cons_self)⟩

/-- A name with its port, and an IPv6 address with brackets and a port. -/
theorem names_member_of_samples :
    (trim "tessera-0.internal" = "tessera-0.internal" ∧ (0 : UInt16) < 11800 ∧
      Address.parse (Address.joined "tessera-0.internal" 11800) =
        .ok { host := "tessera-0.internal", port := 11800 } ∧
      Names "tessera-0.internal" 11800 { host := "tessera-0.internal", port := 11800 }) ∧
    trim "[::1]" = "[::1]" ∧
      Address.parse (Address.joined "[::1]" 11800) = .ok { host := "::1", port := 11800 } ∧
      Names "::1" 11800 { host := "::1", port := 11800 } := by
  have hport : (0 : UInt16) < 11800 := by decide
  have htrim : trim "tessera-0.internal" = "tessera-0.internal" := by cbv
  have hread : Address.parse (Address.joined "tessera-0.internal" 11800) =
      .ok { host := "tessera-0.internal", port := 11800 } := by cbv
  have htrim' : trim "[::1]" = "[::1]" := by cbv
  have hread' : Address.parse (Address.joined "[::1]" 11800) =
      .ok { host := "::1", port := 11800 } := by cbv
  have hname : Address.Bare "tessera-0.internal" "tessera-0.internal" := .name (by decide)
  have hbrackets : Address.Bare "[::1]" "::1" := by
    rw [show "[::1]" = "[" ++ "::1" ++ "]" by decide]
    exact .bracketed (by decide +kernel)
  exact ⟨⟨htrim, hport, hread, (names_member htrim hport hread).right.left _ hname⟩, htrim',
    hread', (names_member htrim' hport hread').right.left _ hbrackets⟩

/-- With the brackets in its settings a node announces a host that no member has, although the same
host and port in one text are a member. -/
theorem brackets_in_settings :
    trim "[::1]" = "[::1]" ∧ (0 : UInt16) < 11800 ∧
      Address.parse (Address.joined "[::1]" 11800) = .ok { host := "::1", port := 11800 } ∧
      ({ host := "[::1]", port := 11800 } : CoreSettings).advertised "10.0.0.1" =
        { host := "[::1]", port := 11800 } ∧
      ({ internalHost := "[::1]", internalPort := 11800 } : CoreSettings).internalAddress? =
        some { host := "[::1]", port := 11800, isInternal := true } ∧
      ("::1", (11800 : UInt16)) ≠ ("[::1]", 11800) := by
  have htrim : trim "[::1]" = "[::1]" := by cbv
  have hport : (0 : UInt16) < 11800 := by decide
  have hne : "[::1]" ≠ "" := by decide
  have hread : Address.parse (Address.joined "[::1]" 11800) =
      .ok { host := "::1", port := 11800 } := by cbv
  exact ⟨htrim, hport, hread, advertised_eq htrim hne rfl rfl _,
    internalAddress?_eq htrim hne hport rfl rfl, by decide⟩

end CoreSettings
end ClusterNode
