import ClusterNode.Proofs.Membership.Entries

/-!
# Three notations of a member list

Members may be listed one by one, joined by commas, or written one a line into a file among blank
lines and comments. The membership is the same in each notation: its entries are the texts that are
not blank, in their order.
-/

namespace ClusterNode
namespace FixedMembers

open Text

structure IsPlain (text : String) : Prop where
  comma : ',' ∉ text.toList
  lineFeed : '\n' ∉ text.toList
  comment : (trimChars text.toList).head? ≠ some '#'

def IsLineEnd (s : List Char) : Prop := s = ['\n'] ∨ s = ['\r', '\n']

def IsFiller (line : List Char) : Prop :=
  '\n' ∉ line ∧ (trimChars line = [] ∨ (trimChars line).head? = some '#')

/-- The file holds the texts one a line, among blank lines and comments. The last line may have no
line end. -/
inductive Holds : List String -> List Char -> Prop where
  | nothing : Holds [] []
  | text {texts : List String} {ending rest : List Char} (text : String) :
      IsLineEnd ending ->
      Holds texts rest ->
      Holds (text :: texts) (text.toList ++ ending ++ rest)
  | filler {texts : List String} {line ending rest : List Char} :
      IsFiller line ->
      IsLineEnd ending ->
      Holds texts rest ->
      Holds texts (line ++ ending ++ rest)
  | lastText (text : String) : Holds [text] text.toList
  | lastFiller {line : List Char} : IsFiller line -> Holds [] line

/-- A membership with these texts, in one of the notations. -/
inductive Gives (texts : List String) (port : UInt16) (read : FileReader) :
    FixedMembers -> Prop where
  | listed : Gives texts port read (ofList texts port)
  | joined : Gives texts port read (ofList [String.intercalate "," texts] port)
  | filed {path content : String} :
      read path = .ok content ->
      Holds texts content.toList ->
      Gives texts port read (ofFile path port)

/-- The texts agree up to the first question mark. -/
def SameToMark (text other : String) : Prop :=
  before '?' text.toList = before '?' other.toList ∧ ('?' ∈ text.toList <-> '?' ∈ other.toList)

def part (text : String) : String := String.ofList (before '?' text.toList)

variable {m : FixedMembers} {read : FileReader} {port : UInt16}
  {texts others : List String} {text other : String} {s line ending rest : List Char}

/-!
## Lines of a file

The entries of a file are the texts that it holds.
-/

def isEntry (line : List Char) : Bool := notBlank line && line.head? != some '#'

def entriesOf (s : List Char) : List (List Char) := ((lines s).map trimChars).filter isEntry

theorem fileEntries_eq (content : String) : fileEntries content = entriesOf content.toList := rfl

theorem lines_of_isLineEnd (hline : '\n' ∉ line) (hending : IsLineEnd ending) (rest : List Char) :
    (lines (line ++ ending ++ rest)).map trimChars =
      trimChars line :: (lines rest).map trimChars := by
  rcases hending with rfl | rfl
  · rw [List.append_assoc]
    show (lines (line ++ '\n' :: rest)).map trimChars = _
    rw [lines_append hline, List.map_cons, trimChars_dropCarriageReturn]
  · have hreturn : '\n' ∉ line ++ ['\r'] := by simpa using hline
    have hblank : Blanks ['\r'] := fun c hc => by
      rw [List.mem_singleton.mp hc]
      rfl
    have hsplit : line ++ ['\r', '\n'] ++ rest = (line ++ ['\r']) ++ '\n' :: rest := by simp
    rw [hsplit, lines_append hreturn, List.map_cons, trimChars_dropCarriageReturn,
      trimChars_append_blanks _ hblank]

theorem lines_of_last (hline : '\n' ∉ line) :
    ((lines line).map trimChars).filter isEntry = [trimChars line].filter isEntry := by
  rw [lines_of_notMem hline]
  split
  · rename_i hempty
    rw [List.isEmpty_iff.mp hempty]
    rfl
  · rfl

theorem isEntry_of_isFiller (h : IsFiller line) : isEntry (trimChars line) = false := by
  unfold isEntry
  rcases h.right with hblank | hcomment
  · rw [hblank]
    rfl
  · rw [hcomment]
    simp

theorem filter_isEntry_of_isPlain (h : IsPlain text) :
    [trimChars text.toList].filter isEntry = trimmed [text.toList] := by
  have hentry : isEntry (trimChars text.toList) = notBlank (trimChars text.toList) := by
    unfold isEntry
    rw [bne_iff_ne.mpr h.comment, Bool.and_true]
  unfold trimmed
  rw [List.map_singleton, List.filter_cons, List.filter_cons, hentry]
  rfl

theorem entriesOf_of_holds (h : Holds texts s)
    (hplain : forall text, text ∈ texts -> IsPlain text) :
    entriesOf s = trimmed (texts.map String.toList) := by
  induction h with
  | nothing => rfl
  | text text hending _ ih =>
      have htext := hplain text List.mem_cons_self
      have hrest := ih fun other hother => hplain other (List.mem_cons_of_mem text hother)
      unfold entriesOf at hrest ⊢
      rw [lines_of_isLineEnd htext.lineFeed hending, ← List.singleton_append, List.filter_append,
        filter_isEntry_of_isPlain htext, hrest, ← trimmed_append]
      rfl
  | filler hfiller hending _ ih =>
      have hrest := ih hplain
      unfold entriesOf at hrest ⊢
      rw [lines_of_isLineEnd hfiller.left hending, List.filter_cons,
        isEntry_of_isFiller hfiller, hrest]
      rfl
  | lastText text =>
      have htext := hplain text List.mem_cons_self
      unfold entriesOf
      rw [lines_of_last htext.lineFeed, filter_isEntry_of_isPlain htext]
      rfl
  | lastFiller hfiller =>
      unfold entriesOf
      rw [lines_of_last hfiller.left, List.filter_cons, isEntry_of_isFiller hfiller]
      rfl

/-!
## Members between commas
-/

theorem flatMap_pieces_of_notMem (h : forall text, text ∈ texts -> ',' ∉ text.toList) :
    (texts.flatMap fun text => pieces ',' text.toList) = texts.map String.toList := by
  induction texts with
  | nil => rfl
  | cons text rest ih =>
      rw [List.flatMap_cons, pieces_of_notMem (h text List.mem_cons_self),
        ih fun other hother => h other (List.mem_cons_of_mem text hother)]
      rfl

theorem pieces_intercalate (hne : texts ≠ []) (h : forall text, text ∈ texts -> ',' ∉ text.toList) :
    pieces ',' (String.intercalate "," texts).toList = texts.map String.toList := by
  induction texts with
  | nil => exact absurd rfl hne
  | cons text rest ih =>
      have htext := h text List.mem_cons_self
      cases rest with
      | nil =>
          rw [String.intercalate_singleton]
          exact pieces_of_notMem htext
      | cons next more =>
          have hrest := ih (List.cons_ne_nil next more)
            fun other hother => h other (List.mem_cons_of_mem text hother)
          have hsplit : (String.intercalate "," (text :: next :: more)).toList =
              text.toList ++ ',' :: (String.intercalate "," (next :: more)).toList := by
            rw [String.intercalate_cons_cons, String.toList_append, String.toList_append,
              List.append_assoc]
            rfl
          rw [hsplit, pieces_append, pieces_of_notMem htext, hrest]
          rfl

theorem listed_joined (h : forall text, text ∈ texts -> ',' ∉ text.toList) (port : UInt16) :
    (ofList [String.intercalate "," texts] port).listed = trimmed (texts.map String.toList) := by
  rw [listed_eq]
  show trimmed ([String.intercalate "," texts].flatMap fun s => pieces ',' s.toList) = _
  rw [List.flatMap_singleton]
  by_cases hne : texts = []
  · rw [hne]
    rfl
  · rw [pieces_intercalate hne h]

/-!
## The answer in each notation

What follows a question mark changes neither the address nor the warning of a text, and blanks
around it do not matter.
-/

theorem Gives.query_eq (h : Gives texts port read m)
    (hplain : forall text, text ∈ texts -> IsPlain text) :
    m.query read =
      (.ok ((ofList texts port).resolve (trimmed (texts.map String.toList))).1,
        ((ofList texts port).resolve (trimmed (texts.map String.toList))).2) := by
  have hcomma : forall text, text ∈ texts -> ',' ∉ text.toList :=
    fun text htext => (hplain text htext).comma
  cases h with
  | listed =>
      rw [query_ofList, listed_eq, ← flatMap_pieces_of_notMem hcomma]
      rfl
  | joined =>
      have hsame := resolve_congr (m := ofList [String.intercalate "," texts] port)
        (n := ofList texts port) rfl
      rw [query_ofList, listed_joined hcomma, hsame]
  | filed hread hholds =>
      rename_i path content
      have hsame := resolve_congr (m := ofFile path port) (n := ofList texts port) rfl
      rw [query_ofFile port hread, fileEntries_eq, entriesOf_of_holds hholds hplain, hsame]

/-- What follows a question mark changes neither the address nor the warning. -/
theorem resolve_of_sameToMark (h : SameToMark text other) (m : FixedMembers) :
    m.resolve (trimmed [text.toList]) = m.resolve (trimmed [other.toList]) := by
  by_cases hmark : '?' ∈ text.toList
  · have hnot : forall s : List Char, '?' ∈ s -> ¬Blanks s := by
      intro s hmem hblank
      cases hblank '?' hmem
    have hparse : m.parseEntry (trimChars text.toList) = m.parseEntry (trimChars other.toList) := by
      rw [parseEntry_trimChars, parseEntry_trimChars, parseEntry_of_before h.left]
    rw [trimmed_of_not_blanks (hnot _ hmark), trimmed_of_not_blanks (hnot _ (h.right.mp hmark))]
    unfold resolve
    rw [hparse]
  · have hsame := h.left
    rw [before_eq_self hmark, before_eq_self fun hmem => hmark (h.right.mpr hmem)] at hsame
    rw [hsame]

theorem resolve_of_forall₂ (h : List.Forall₂ SameToMark texts others) (m : FixedMembers) :
    m.resolve (trimmed (texts.map String.toList)) =
      m.resolve (trimmed (others.map String.toList)) := by
  induction h with
  | nil => rfl
  | cons hfirst _ ih =>
      rw [List.map_cons, List.map_cons, ← List.singleton_append, trimmed_append, resolve_append,
        resolve_of_sameToMark hfirst, ih, ← resolve_append, ← trimmed_append]
      rfl

theorem accepted?_toList (hport : m.defaultPort = port) (text : String) :
    m.accepted? text.toList = (Address.parseWithDefault (part text) port).toOption := by
  unfold accepted? parseEntry part
  rw [hport]

theorem skipped?_trimChars (hport : m.defaultPort = port) (text : String) :
    m.skipped? (trimChars text.toList) =
      warning? (Address.parseWithDefault (part text) port) := by
  unfold skipped?
  rw [parseEntry_trimChars]
  unfold parseEntry part
  rw [hport]

theorem trimmed_map_toList (texts : List String) :
    trimmed (texts.map String.toList) =
      (texts.filter fun text => !isBlankText text).map fun text => trimChars text.toList := by
  unfold trimmed
  rw [List.map_map, List.filter_map]
  rfl

/-- The notations of the same texts give the same answer, and so do texts that agree up to their
question marks. Addresses and warnings number the texts that are not blank, and a text has an
address exactly if the part before its first question mark is one. -/
theorem notations_agree (hplain : forall text, text ∈ texts -> IsPlain text)
    (hgives : Gives texts port read m) :
    (exists addresses warnings, m.query read = (.ok addresses, warnings) ∧
      addresses.length + warnings.length = (texts.filter fun text => !isBlankText text).length ∧
      addresses = texts.filterMap (fun text =>
        (Address.parseWithDefault (part text) port).toOption) ∧
      warnings = (texts.filter fun text => !isBlankText text).filterMap fun text =>
        warning? (Address.parseWithDefault (part text) port)) ∧
    forall others n read', (forall text, text ∈ others -> IsPlain text) ->
      Gives others port read' n -> List.Forall₂ SameToMark texts others ->
        n.query read' = m.query read := by
  have hport : (ofList texts port).defaultPort = port := rfl
  refine ⟨⟨_, _, hgives.query_eq hplain, ?_, ?_, ?_⟩, ?_⟩
  · rw [length_resolve, trimmed_map_toList, List.length_map]
  · rw [resolve_eq, filterMap_accepted?_trimmed, List.filterMap_map]
    refine List.filterMap_congr fun text _ => ?_
    rw [Function.comp_apply, accepted?_toList hport]
  · rw [resolve_eq, trimmed_map_toList]
    dsimp only
    rw [List.filterMap_map]
    refine List.filterMap_congr fun text _ => ?_
    rw [Function.comp_apply, skipped?_trimChars hport]
  · intro others n read' hothers hgives' hsame
    have hread := resolve_congr (m := ofList others port) (n := ofList texts port) rfl
    rw [hgives'.query_eq hothers, hgives.query_eq hplain, resolve_of_forall₂ hsame, hread]

def sampleTexts : List String := ["10.0.0.2 ", " ", "[::1]?raft=9", "bad:port"]

def otherTexts : List String := ["10.0.0.2 ", " ", "[::1]?", "bad:port"]

/-- Both kinds of line ends, a comment and an empty line, and no line end at the end. -/
def sampleContent : String := "# nodes\n10.0.0.2 \r\n \n\n[::1]?raft=9\r\nbad:port"

theorem isPlain_of_mem_sampleTexts (h : text ∈ sampleTexts ++ otherTexts) : IsPlain text := by
  simp only [sampleTexts, otherTexts, List.cons_append, List.nil_append, List.mem_cons,
    List.not_mem_nil, or_false] at h
  rcases h with rfl | rfl | rfl | rfl | rfl | rfl | rfl | rfl <;>
    exact ⟨by decide, by decide, by decide⟩

theorem holds_sampleContent : Holds sampleTexts sampleContent.toList := by
  have hlines : sampleContent.toList = "# nodes".toList ++ ['\n'] ++ ("10.0.0.2 ".toList ++
      ['\r', '\n'] ++ (" ".toList ++ ['\n'] ++ ([] ++ ['\n'] ++ ("[::1]?raft=9".toList ++
        ['\r', '\n'] ++ "bad:port".toList)))) := by
    decide +kernel
  rw [hlines]
  refine .filler ⟨by decide, Or.inr (by decide)⟩ (Or.inl rfl) ?_
  refine .text _ (Or.inr rfl) ?_
  refine .text _ (Or.inl rfl) ?_
  refine .filler ⟨by decide, Or.inl rfl⟩ (Or.inl rfl) ?_
  refine .text _ (Or.inr rfl) ?_
  exact .lastText _

theorem notations_agree_of_sampleContent :
    (forall text, text ∈ sampleTexts -> IsPlain text) ∧
    Gives sampleTexts 80 (fun _ => .ok sampleContent) (ofFile "members" 80) ∧
    (ofFile "members" 80).query (fun _ => .ok sampleContent) =
      (.ok [{ host := "10.0.0.2", port := 80 }, { host := "::1", port := 80 }],
        [.warning "Skipping cluster member entry: invalid address 'bad:port'"]) ∧
    (ofList [String.intercalate "," otherTexts] 80).query (fun _ => .error .denied) =
      (ofFile "members" 80).query fun _ => .ok sampleContent := by
  have hplain : forall text, text ∈ sampleTexts -> IsPlain text :=
    fun text htext => isPlain_of_mem_sampleTexts (List.mem_append_left _ htext)
  have hothers : forall text, text ∈ otherTexts -> IsPlain text :=
    fun text htext => isPlain_of_mem_sampleTexts (List.mem_append_right _ htext)
  have hgives : Gives sampleTexts 80 (fun _ => .ok sampleContent) (ofFile "members" 80) :=
    @Gives.filed sampleTexts 80 _ "members" sampleContent rfl holds_sampleContent
  have hsame : List.Forall₂ SameToMark sampleTexts otherTexts := by
    refine .cons ⟨rfl, Iff.rfl⟩ (.cons ⟨rfl, Iff.rfl⟩ (.cons ⟨by decide, by decide⟩
      (.cons ⟨rfl, Iff.rfl⟩ .nil)))
  have hagree := notations_agree hplain hgives
  refine ⟨hplain, hgives, ?_, hagree.right otherTexts _ _ hothers .joined hsame⟩
  rcases hagree.left with ⟨addresses, warnings, hquery, _, haddresses, hwarnings⟩
  have hread : sampleTexts.filterMap (fun text =>
      (Address.parseWithDefault (part text) 80).toOption) =
        [{ host := "10.0.0.2", port := 80 }, { host := "::1", port := 80 }] := by
    decide +kernel
  have hskip : ((sampleTexts.filter fun text => !isBlankText text).filterMap fun text =>
      warning? (Address.parseWithDefault (part text) 80)) =
        [.warning "Skipping cluster member entry: invalid address 'bad:port'"] := by
    decide +kernel
  rw [hquery, haddresses, hwarnings, hread, hskip]

end FixedMembers
end ClusterNode
