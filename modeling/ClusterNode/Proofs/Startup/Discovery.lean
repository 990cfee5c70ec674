import ClusterNode.Proofs.Address.Order
import ClusterNode.Proofs.Text.Cuts
import ClusterNode.Startup.Application

/-!
# Modules of a configuration tree

Which modules a configuration tree makes. Each name of the top level is decided by its own table, by
the selector there and by the entry under the selector's text. Going through the names in ascending
order, the first one that is refused is the smallest, and the modules come out in ascending order
whatever order the tree is kept in. A tree is taken as a whole first: its integers without a sign
get one, and a tree with one that does not fit, which is one of 2^63 or more in 64 bits and of 2^127
or more in 128 bits, is refused.
-/

namespace ClusterNode

/-!
## Integers that do not fit
-/

namespace Value

inductive Leads : Value -> List Segment -> Value -> Prop
  | here (v : Value) : Leads v [] v
  | item {items : List Value} {i : Nat} {w v : Value} {path : List Segment}
      (hitem : items[i]? = some w) (hrest : Leads w path v) :
      Leads (.list items) (.index i :: path) v
  | entry {entries : Entries} {key : String} {w v : Value} {path : List Segment}
      (hentry : (key, w) ∈ entries) (hrest : Leads w path v) :
      Leads (.table entries) (.key key :: path) v

def tooLarge (n : Unsigned) (path : List Segment) : ConversionError :=
  { mistake := .type (.natural n) "any valid configuration value", path }

/-- All integers of the tree fit into integers of their width with a sign. -/
def Fits (root : Entries) : Prop :=
  forall path n, Leads (.table root) path (.uint n) -> n.value < n.width.signedBound

mutual

theorem leads_of_oversized : forall (v : Value) {e : ConversionError},
    oversized? v = some e -> exists n path, Leads v path (.uint n) ∧
      n.width.signedBound ≤ n.value ∧ e = tooLarge n path
  | .uint n, _, h => by
      cases hsigned : n.signed? with
      | some i => simp [oversized?, hsigned] at h
      | none =>
          rw [oversized?, hsigned] at h
          exact ⟨n, [], Leads.here _, n.signed?_eq_none_iff.mp hsigned, (Option.some.inj h).symm⟩
  | .list items, _, h => by
      rcases leads_of_oversizedItem items h with ⟨i, w, n, path, hitem, hleads, hn, rfl⟩
      rw [Nat.zero_add]
      exact ⟨n, _, Leads.item hitem hleads, hn, rfl⟩
  | .table entries, _, h => by
      rcases leads_of_oversizedEntry entries h with ⟨key, w, n, path, hentry, hleads, hn, rfl⟩
      exact ⟨n, _, Leads.entry hentry hleads, hn, rfl⟩
  | .nil, _, h => by cases h
  | .bool _, _, h => by cases h
  | .int _, _, h => by cases h
  | .float _, _, h => by cases h
  | .string _, _, h => by cases h

theorem leads_of_oversizedItem : forall (items : List Value) {start : Nat} {e : ConversionError},
    oversizedItem? start items = some e -> exists i w n path, items[i]? = some w ∧
      Leads w path (.uint n) ∧ n.width.signedBound ≤ n.value ∧
      e = tooLarge n (.index (start + i) :: path)
  | [], _, _, h => by cases h
  | v :: rest, start, e, h => by
      cases hv : oversized? v with
      | some first =>
          rw [oversizedItem?, hv] at h
          rcases leads_of_oversized v hv with ⟨n, path, hleads, hn, rfl⟩
          exact ⟨0, v, n, path, rfl, hleads, hn, (Option.some.inj h).symm⟩
      | none =>
          rw [oversizedItem?, hv] at h
          rcases leads_of_oversizedItem rest h with ⟨i, w, n, path, hitem, hleads, hn, he⟩
          refine ⟨i + 1, w, n, path, hitem, hleads, hn, ?_⟩
          rw [he, Nat.add_right_comm, Nat.add_assoc]

theorem leads_of_oversizedEntry : forall (entries : List (String × Value)) {e : ConversionError},
    oversizedEntry? entries = some e -> exists key w n path, (key, w) ∈ entries ∧
      Leads w path (.uint n) ∧ n.width.signedBound ≤ n.value ∧
      e = tooLarge n (.key key :: path)
  | [], _, h => by cases h
  | (key, v) :: rest, e, h => by
      cases hv : oversized? v with
      | some first =>
          unfold oversizedEntry? at h
          rw [hv] at h
          rcases leads_of_oversized v hv with ⟨n, path, hleads, hn, rfl⟩
          exact ⟨key, v, n, path, List.mem_cons_self, hleads, hn, (Option.some.inj h).symm⟩
      | none =>
          unfold oversizedEntry? at h
          rw [hv] at h
          rcases leads_of_oversizedEntry rest h with ⟨key', w, n, path, hentry, hleads, hn, he⟩
          exact ⟨key', w, n, path, List.mem_cons_of_mem _ hentry, hleads, hn, he⟩

end

theorem oversized?_of_items {items : List Value} {start : Nat}
    (h : oversizedItem? start items = none) {w : Value} (hw : w ∈ items) :
    oversized? w = none := by
  induction items generalizing start with
  | nil => cases hw
  | cons v rest ih =>
      cases hv : oversized? v with
      | some e => simp [oversizedItem?, hv] at h
      | none =>
          rw [oversizedItem?, hv] at h
          rcases List.mem_cons.mp hw with rfl | hrest
          · exact hv
          · exact ih h hrest

theorem oversized?_of_entries {entries : Entries} (h : oversizedEntry? entries = none)
    {key : String} {w : Value} (hw : (key, w) ∈ entries) : oversized? w = none := by
  induction entries with
  | nil => cases hw
  | cons entry rest ih =>
      rcases entry with ⟨k, v⟩
      cases hv : oversized? v with
      | some e =>
          unfold oversizedEntry? at h
          rw [hv] at h
          cases h
      | none =>
          unfold oversizedEntry? at h
          rw [hv] at h
          rcases List.mem_cons.mp hw with heq | hrest
          · cases heq
            exact hv
          · exact ih h hrest

theorem oversized?_ne_none {v w : Value} {path : List Segment} (h : Leads v path w)
    {n : Unsigned} (hn : n.width.signedBound ≤ n.value) (hw : w = .uint n) :
    oversized? v ≠ none := by
  induction h with
  | here v =>
      subst hw
      rw [oversized?, n.signed?_eq_none_iff.mpr hn]
      exact Option.some_ne_none _
  | item hitem hrest ih =>
      intro hnone
      exact ih hw (oversized?_of_items hnone (List.mem_of_getElem? hitem))
  | entry hentry hrest ih =>
      intro hnone
      exact ih hw (oversized?_of_entries hnone hentry)

theorem fits_iff (root : Entries) : oversizedEntry? root = none <-> Fits root := by
  constructor
  · intro hnone path n hleads
    exact Nat.lt_of_not_le fun hn => oversized?_ne_none hleads hn rfl hnone
  · intro hfits
    cases h : oversizedEntry? root with
    | none => rfl
    | some e =>
        rcases leads_of_oversizedEntry root h with ⟨key, w, n, path, hentry, hleads, hn, _⟩
        exact absurd (hfits _ _ (Leads.entry hentry hleads)) (Nat.not_lt.mpr hn)

theorem Fits.perm {root root' : Entries} (h : Fits root) (hperm : root'.Perm root) :
    Fits root' := by
  intro path n hleads
  cases hleads with
  | entry hentry hrest => exact h _ _ (Leads.entry (hperm.mem_iff.mp hentry) hrest)

theorem wholeEntries_of_fits {root : Entries} (h : Fits root) :
    wholeEntries root = .ok (signedEntries root) := by
  unfold wholeEntries
  rw [(fits_iff root).mpr h]

theorem fits_of_wholeEntries {root root' : Entries} (h : wholeEntries root = .ok root') :
    Fits root := by
  rw [← fits_iff]
  cases hroot : oversizedEntry? root with
  | none => rfl
  | some e =>
      unfold wholeEntries at h
      rw [hroot] at h
      cases h

/-!
## Integers with a sign

A number keeps its text when it gets a sign, so a selector stays the same. A table keeps its keys,
and what stands under them gets its signs in turn.
-/

theorem toText_signed (v : Value) : v.signed.toText = v.toText := by
  cases v with
  | uint n =>
      cases h : n.signed? with
      | none => rw [signed, h]
      | some i =>
          rw [signed, h]
          show Except.ok (toString i.value) = Except.ok (toString n.value)
          rw [Unsigned.value_of_signed? h]
          rfl
  | _ => rfl

theorem get?_signedEntries (entries : Entries) (key : String) :
    Entries.get? (signedEntries entries) key = (Entries.get? entries key).map signed := by
  induction entries with
  | nil => rfl
  | cons entry rest ih =>
      rcases entry with ⟨k, v⟩
      rw [signedEntries, Entries.get?_cons, Entries.get?_cons, ih]
      split <;> rfl

theorem sortedKeys_signedEntries (entries : Entries) :
    Entries.sortedKeys (signedEntries entries) = Entries.sortedKeys entries := by
  have hkeys : (signedEntries entries).map Prod.fst = entries.map Prod.fst := by
    induction entries with
    | nil => rfl
    | cons entry rest ih =>
        rcases entry with ⟨k, v⟩
        rw [signedEntries, List.map_cons, List.map_cons, ih]
  rw [Entries.sortedKeys, Entries.sortedKeys, hkeys]

theorem getD_get?_signedEntries (entries : Entries) (key : String) :
    (Entries.get? (signedEntries entries) key).getD .nil =
      ((Entries.get? entries key).getD .nil).signed := by
  rw [get?_signedEntries]
  cases Entries.get? entries key with
  | none => rfl
  | some v => rfl

end Value

/-!
## One table

A module that is declared is refused or makes its choice, and it cannot do both.
-/

theorem Text.isBlankText_iff (s : String) :
    Text.isBlankText s = true <-> Text.Blanks s.toList := by
  unfold isBlankText
  rw [List.isEmpty_iff, trimChars_eq_nil_iff]

namespace Application

/-- The table that a configuration tree has under a name, and the selector in it. -/
structure Declares (root : Entries) (name : String) (entries : Entries) (selector : Value) :
    Prop where
  table : Entries.get? root name = some (.table entries)
  selects : Entries.get? entries selectorKey = some selector

/-- What a table chooses: the text of its selector as it stands, and its own entry under that text,
with signs on its integers. -/
structure Chooses (entries : Entries) (selector : Value) (choice : ModuleChoice) : Prop where
  selected : selector.toText = .ok choice.selector
  visible : ¬Text.Blanks choice.selector.toList
  properties : choice.properties = ((Entries.get? entries choice.selector).getD .nil).signed

/-- Why the selector of a table cannot be taken. -/
inductive Refuses (name : String) (selector : Value) : ModuleError -> Prop
  | noText {e : ConversionError} (htext : selector.toText = .error e) :
      Refuses name selector (.moduleConfig (name ++ "." ++ selectorKey ++ ": " ++ e.message))
  | blank {text : String} (htext : selector.toText = .ok text)
      (hblank : Text.Blanks text.toList) :
      Refuses name selector (.moduleConfig (name ++ "." ++ selectorKey ++ " must not be empty"))

def choiceOf (root : Entries) (name : String) : Except ModuleError (Option ModuleChoice) :=
  choice? name ((Entries.get? root name).getD .nil).signed

variable {root entries : Entries} {name : String} {selector : Value}

theorem Declares.mem_sortedKeys (h : Declares root name entries selector) :
    name ∈ Entries.sortedKeys root := by
  have hsome : (Entries.get? root name).isSome := by
    rw [h.table]
    rfl
  rw [Entries.isSome_get?, List.any_eq_true] at hsome
  rcases hsome with ⟨entry, hentry, hname⟩
  rw [Entries.sortedKeys, List.mem_mergeSort, List.mem_map]
  exact ⟨entry, hentry, beq_iff_eq.mp hname⟩

theorem Refuses.not_chooses {e : ModuleError} (h : Refuses name selector e)
    (choice : ModuleChoice) : ¬Chooses entries selector choice := by
  intro hchooses
  have hselected := hchooses.selected
  cases h with
  | noText htext =>
      rw [htext] at hselected
      cases hselected
  | blank htext hblank =>
      rw [htext] at hselected
      cases hselected
      exact hchooses.visible hblank

theorem choice?_of_noText (hselects : Entries.get? entries selectorKey = some selector)
    {e : ConversionError} (htext : selector.toText = .error e) :
    choice? name (.table entries) =
      .error (.moduleConfig (name ++ "." ++ selectorKey ++ ": " ++ e.message)) := by
  unfold choice?
  simp only [hselects, htext]

theorem choice?_of_text (hselects : Entries.get? entries selectorKey = some selector)
    {text : String} (htext : selector.toText = .ok text) :
    choice? name (.table entries) =
      if Text.isBlankText text then
        .error (.moduleConfig (name ++ "." ++ selectorKey ++ " must not be empty"))
      else .ok (some ⟨text, (Entries.get? entries text).getD .nil⟩) := by
  unfold choice?
  simp only [hselects, htext]

theorem choice?_of_no_selector (hselects : Entries.get? entries selectorKey = none) :
    choice? name (.table entries) = .ok none := by
  unfold choice?
  simp only [hselects]

theorem choiceOf_of_table (h : Entries.get? root name = some (.table entries)) :
    choiceOf root name = choice? name (.table (Value.signedEntries entries)) := by
  rw [choiceOf, h, Option.getD_some, Value.signed]

theorem Declares.get?_selector (h : Declares root name entries selector) :
    Entries.get? (Value.signedEntries entries) selectorKey = some selector.signed := by
  rw [Value.get?_signedEntries, h.selects, Option.map_some]

theorem choiceOf_of_noText (h : Declares root name entries selector) {e : ConversionError}
    (htext : selector.toText = .error e) :
    choiceOf root name =
      .error (.moduleConfig (name ++ "." ++ selectorKey ++ ": " ++ e.message)) := by
  rw [choiceOf_of_table h.table]
  exact choice?_of_noText h.get?_selector (selector.toText_signed.trans htext)

theorem choiceOf_of_text (h : Declares root name entries selector) {text : String}
    (htext : selector.toText = .ok text) :
    choiceOf root name =
      if Text.isBlankText text then
        .error (.moduleConfig (name ++ "." ++ selectorKey ++ " must not be empty"))
      else .ok (some ⟨text, ((Entries.get? entries text).getD .nil).signed⟩) := by
  rw [choiceOf_of_table h.table, ← Value.getD_get?_signedEntries]
  exact choice?_of_text h.get?_selector (selector.toText_signed.trans htext)

theorem choiceOf_of_not_declares
    (h : forall entries selector, ¬Declares root name entries selector) :
    choiceOf root name = .ok none := by
  cases hroot : Entries.get? root name with
  | none =>
      rw [choiceOf, hroot]
      rfl
  | some v =>
      cases v with
      | table entries =>
          rw [choiceOf_of_table hroot]
          refine choice?_of_no_selector ?_
          rw [Value.get?_signedEntries, Option.map_eq_none_iff]
          cases hselects : Entries.get? entries selectorKey with
          | none => rfl
          | some selector => exact absurd ⟨hroot, hselects⟩ (h entries selector)
      | uint n =>
          rw [choiceOf, hroot, Option.getD_some, Value.signed]
          cases n.signed? <;> rfl
      | _ =>
          rw [choiceOf, hroot]
          rfl

theorem Declares.outcome (h : Declares root name entries selector) :
    (exists e, choiceOf root name = .error e ∧ Refuses name selector e) ∨
      exists choice, choiceOf root name = .ok (some choice) ∧
        Chooses entries selector choice := by
  cases htext : selector.toText with
  | error e => exact Or.inl ⟨_, choiceOf_of_noText h htext, Refuses.noText htext⟩
  | ok text =>
      rw [choiceOf_of_text h htext]
      split_ifs with hblank
      · exact Or.inl ⟨_, rfl, Refuses.blank htext ((Text.isBlankText_iff text).mp hblank)⟩
      · exact Or.inr ⟨_, rfl, htext, fun h => hblank ((Text.isBlankText_iff text).mpr h), rfl⟩

theorem declares_of_choiceOf {found : Except ModuleError (Option ModuleChoice)}
    (h : choiceOf root name = found) (hfound : found ≠ .ok none) :
    exists entries selector, Declares root name entries selector := by
  by_contra hnone
  refine hfound (h.symm.trans (choiceOf_of_not_declares ?_))
  exact fun entries selector hdeclares => hnone ⟨entries, selector, hdeclares⟩

theorem refuses_of_choiceOf {e : ModuleError} (h : choiceOf root name = .error e) :
    exists entries selector, Declares root name entries selector ∧ Refuses name selector e := by
  rcases declares_of_choiceOf h (by simp) with ⟨entries, selector, hdeclares⟩
  refine ⟨entries, selector, hdeclares, ?_⟩
  rcases hdeclares.outcome with ⟨e', he, hrefuses⟩ | ⟨choice, hok, _⟩
  · rw [h] at he
    cases he
    exact hrefuses
  · rw [h] at hok
    cases hok

theorem choiceOf_eq_some_iff {choice : ModuleChoice} :
    choiceOf root name = .ok (some choice) <->
      exists entries selector, Declares root name entries selector ∧
        Chooses entries selector choice := by
  constructor
  · intro h
    rcases declares_of_choiceOf h (by simp) with ⟨entries, selector, hdeclares⟩
    refine ⟨entries, selector, hdeclares, ?_⟩
    rcases hdeclares.outcome with ⟨e, he, _⟩ | ⟨choice', hok, hchooses⟩
    · rw [h] at he
      cases he
    · rw [h] at hok
      cases hok
      exact hchooses
  · rintro ⟨entries, selector, hdeclares, hchooses⟩
    rw [choiceOf_of_text hdeclares hchooses.selected,
      if_neg fun h => hchooses.visible ((Text.isBlankText_iff _).mp h), ← hchooses.properties]

/-!
## One name after the other

What is refused is the smallest of the names that cannot be taken.
-/

structure Gathered (root : Entries) (seen : List String) (a : Application) : Prop where
  accepted : forall name, name ∈ seen -> forall e, choiceOf root name ≠ .error e
  mem_iff : forall name choice, (name, choice) ∈ a.modules <->
    name ∈ seen ∧ choiceOf root name = .ok (some choice)
  ascending : a.names.Pairwise (· < ·)

theorem Gathered.empty (root : Entries) : Gathered root [] .empty where
  accepted _ hname := by cases hname
  mem_iff name choice := by simp [Application.empty]
  ascending := List.Pairwise.nil

variable {seen rest : List String} {a b : Application}

theorem Gathered.mem_seen (h : Gathered root seen a) {n : String} (hn : n ∈ a.names) :
    n ∈ seen := by
  rcases List.mem_map.mp hn with ⟨⟨n, choice⟩, hmem, rfl⟩
  exact ((h.mem_iff n choice).mp hmem).left

theorem Gathered.pairwise (h : Gathered root seen a) :
    a.modules.Pairwise fun p q => p.1 < q.1 :=
  List.pairwise_map.mp h.ascending

theorem Gathered.accepted_concat (h : Gathered root seen a)
    (hname : forall e, choiceOf root name ≠ .error e) (n : String) (hn : n ∈ seen ++ [name])
    (e : ModuleError) : choiceOf root n ≠ .error e := by
  rcases List.mem_append.mp hn with hseen | hlast
  · exact h.accepted n hseen e
  · rw [List.mem_singleton.mp hlast]
    exact hname e

theorem Gathered.skip (h : Gathered root seen a) (hname : choiceOf root name = .ok none) :
    Gathered root (seen ++ [name]) a where
  accepted := h.accepted_concat (by simp [hname])
  mem_iff n choice := by
    rw [h.mem_iff]
    constructor
    · exact fun ⟨hn, hchoice⟩ => ⟨List.mem_append_left _ hn, hchoice⟩
    · rintro ⟨hn, hchoice⟩
      refine ⟨(List.mem_append.mp hn).resolve_right fun hlast => ?_, hchoice⟩
      rw [List.mem_singleton.mp hlast, hname] at hchoice
      cases hchoice
  ascending := h.ascending

theorem Gathered.add (h : Gathered root seen a) {choice : ModuleChoice}
    (hname : choiceOf root name = .ok (some choice))
    (hlast : forall n, n ∈ seen -> n ≤ name) :
    Gathered root (seen ++ [name]) (a.addModule name choice) where
  accepted := h.accepted_concat (by simp [hname])
  mem_iff n c := by
    rw [mem_addModule, h.mem_iff, List.mem_append, List.mem_singleton]
    by_cases hn : n = name
    · subst hn
      simp [hname, eq_comm]
    · simp [hn]
  ascending := by
    rw [names_addModule, List.pairwise_append]
    refine ⟨h.ascending.filter _, List.pairwise_singleton _ _, ?_⟩
    intro n hn n' hn'
    rw [List.mem_singleton.mp hn']
    have hne : n ≠ name := by simpa using (List.mem_filter.mp hn).right
    have hle := hlast n (h.mem_seen (List.mem_filter.mp hn).left)
    exact String.not_le.mp fun hge => hne (String.le_antisymm hle hge)

theorem collect_cons (root : Entries) (a : Application) (name : String) (rest : List String) :
    collect (Value.signedEntries root) a (name :: rest) =
      match choiceOf root name with
      | .error e => .error e
      | .ok none => collect (Value.signedEntries root) a rest
      | .ok (some choice) => collect (Value.signedEntries root) (a.addModule name choice) rest := by
  rw [choiceOf, ← Value.getD_get?_signedEntries]
  rfl

theorem Gathered.collect (h : Gathered root seen a) (hsorted : (seen ++ rest).Pairwise (· ≤ ·))
    (hok : collect (Value.signedEntries root) a rest = .ok b) :
    Gathered root (seen ++ rest) b := by
  induction rest generalizing seen a with
  | nil =>
      cases hok
      rw [List.append_nil]
      exact h
  | cons name rest ih =>
      rw [List.append_cons] at hsorted ⊢
      rw [collect_cons] at hok
      cases hname : choiceOf root name with
      | error e => simp [hname] at hok
      | ok found =>
          rw [hname] at hok
          cases found with
          | none => exact ih (h.skip hname) hsorted hok
          | some choice =>
              refine ih (h.add hname ?_) hsorted hok
              intro n hn
              have hbefore := (List.pairwise_append.mp hsorted).left
              exact (List.pairwise_append.mp hbefore).right.right n hn name
                (List.mem_singleton_self name)

theorem first_of_collect {e : ModuleError} (hsorted : rest.Pairwise (· ≤ ·))
    (h : collect (Value.signedEntries root) a rest = .error e) :
    exists name, name ∈ rest ∧ choiceOf root name = .error e ∧
      forall other, other ∈ rest -> forall e', choiceOf root other = .error e' ->
        name ≤ other := by
  induction rest generalizing a with
  | nil => cases h
  | cons name rest ih =>
      rcases List.pairwise_cons.mp hsorted with ⟨hfirst, hrest⟩
      rw [collect_cons] at h
      cases hname : choiceOf root name with
      | error e' =>
          rw [hname] at h
          cases h
          refine ⟨name, List.mem_cons_self, hname, fun other hother _ _ => ?_⟩
          rcases List.mem_cons.mp hother with rfl | hlater
          · exact String.le_refl _
          · exact hfirst other hlater
      | ok found =>
          have hlater : exists a', collect (Value.signedEntries root) a' rest = .error e := by
            rw [hname] at h
            cases found with
            | none => exact ⟨a, h⟩
            | some choice => exact ⟨a.addModule name choice, h⟩
          rcases hlater with ⟨a', ha'⟩
          rcases ih hrest ha' with ⟨least, hmem, hleast, hmin⟩
          refine ⟨least, List.mem_cons_of_mem _ hmem, hleast, fun other hother e' he' => ?_⟩
          rcases List.mem_cons.mp hother with rfl | hother
          · rw [hname] at he'
            cases he'
          · exact hmin other hother e' he'

/-!
## The whole tree

A tree makes the same modules as another one that says the same about each name.
-/

theorem pairwise_sortedKeys (root : Entries) : (Entries.sortedKeys root).Pairwise (· ≤ ·) := by
  have hsorted : (Entries.sortedKeys root).Pairwise fun a b => decide (a ≤ b) = true := by
    apply List.pairwise_mergeSort
    · intro a b c hab hbc
      exact decide_eq_true (String.le_trans (of_decide_eq_true hab) (of_decide_eq_true hbc))
    · intro a b
      simpa using String.le_total a b
  exact hsorted.imp of_decide_eq_true

theorem ofEntries_of_fits (h : Value.Fits root) :
    ofEntries root =
      collect (Value.signedEntries root) .empty (Entries.sortedKeys root) := by
  unfold ofEntries
  rw [Value.wholeEntries_of_fits h, ← Value.sortedKeys_signedEntries]

theorem fits_of_ofEntries (h : ofEntries root = .ok a) : Value.Fits root := by
  unfold ofEntries at h
  split at h
  · cases h
  · rename_i root' hwhole
    exact Value.fits_of_wholeEntries hwhole

theorem gathered_of_ofEntries (h : ofEntries root = .ok a) :
    Gathered root (Entries.sortedKeys root) a := by
  rw [ofEntries_of_fits (fits_of_ofEntries h)] at h
  exact (Gathered.empty root).collect (pairwise_sortedKeys root) h

theorem mem_of_ofEntries (h : ofEntries root = .ok a) (name : String) (choice : ModuleChoice) :
    (name, choice) ∈ a.modules <-> choiceOf root name = .ok (some choice) := by
  rw [(gathered_of_ofEntries h).mem_iff]
  refine ⟨And.right, fun hchoice => ⟨?_, hchoice⟩⟩
  rcases choiceOf_eq_some_iff.mp hchoice with ⟨entries, selector, hdeclares, _⟩
  exact hdeclares.mem_sortedKeys

theorem accepted_of_ofEntries (h : ofEntries root = .ok a) (name : String) (e : ModuleError) :
    choiceOf root name ≠ .error e := by
  intro he
  rcases refuses_of_choiceOf he with ⟨entries, selector, hdeclares, _⟩
  exact (gathered_of_ofEntries h).accepted name hdeclares.mem_sortedKeys e he

theorem first_of_ofEntries {e : ModuleError} (hfits : Value.Fits root)
    (h : ofEntries root = .error e) :
    exists name, choiceOf root name = .error e ∧
      forall other e', choiceOf root other = .error e' -> name ≤ other := by
  rw [ofEntries_of_fits hfits] at h
  rcases first_of_collect (pairwise_sortedKeys root) h with ⟨name, _, hname, hmin⟩
  refine ⟨name, hname, fun other e' he' => ?_⟩
  rcases refuses_of_choiceOf he' with ⟨entries, selector, hdeclares, _⟩
  exact hmin other hdeclares.mem_sortedKeys e' he'

theorem nodup_names_of_ofEntries (h : ofEntries root = .ok a) : a.names.Nodup :=
  (gathered_of_ofEntries h).ascending.imp fun {n m} hlt heq => by
    subst heq
    exact String.lt_irrefl _ hlt

theorem ofEntries_congr {root' : Entries} (hfits : Value.Fits root) (hfits' : Value.Fits root')
    (h : forall name, choiceOf root' name = choiceOf root name) :
    ofEntries root' = ofEntries root := by
  cases hroot : ofEntries root with
  | error e =>
      rcases first_of_ofEntries hfits hroot with ⟨name, hname, hmin⟩
      cases hroot' : ofEntries root' with
      | error e' =>
          rcases first_of_ofEntries hfits' hroot' with ⟨name', hname', hmin'⟩
          rw [h] at hname'
          have hsame : name' = name :=
            String.le_antisymm (hmin' name e ((h name).trans hname)) (hmin name' e' hname')
          rw [hsame, hname] at hname'
          rw [Except.error.inj hname']
      | ok a' => exact absurd ((h name).trans hname) (accepted_of_ofEntries hroot' name e)
  | ok a =>
      cases hroot' : ofEntries root' with
      | error e' =>
          rcases first_of_ofEntries hfits' hroot' with ⟨name', hname', _⟩
          exact absurd ((h name').symm.trans hname') (accepted_of_ofEntries hroot name' e')
      | ok a' =>
          have hperm : a'.modules.Perm a.modules := by
            rw [List.perm_ext_iff_of_nodup (nodup_names_of_ofEntries hroot').of_map
              (nodup_names_of_ofEntries hroot).of_map]
            rintro ⟨name, choice⟩
            rw [mem_of_ofEntries hroot', mem_of_ofEntries hroot, h]
          have hmodules : a'.modules = a.modules :=
            hperm.eq_of_pairwise
              (fun p q _ _ hpq hqp => absurd hqp (String.lt_asymm hpq))
              (gathered_of_ofEntries hroot').pairwise (gathered_of_ofEntries hroot).pairwise
          rcases a with ⟨modules⟩
          rcases a' with ⟨modules'⟩
          exact congrArg (fun m => Except.ok (Application.mk m)) hmodules

/-- Each module of a tree stands in the other one too, with the same selector and with the same
entry under its text. -/
def Covers (root root' : Entries) : Prop :=
  forall name entries selector, Declares root name entries selector ->
    exists entries', Declares root' name entries' selector ∧
      forall text, selector.toText = .ok text ->
        Entries.get? entries' text = Entries.get? entries text

theorem choiceOf_congr {root' : Entries} (h : Covers root root') (h' : Covers root' root)
    (name : String) : choiceOf root' name = choiceOf root name := by
  by_cases hdeclared : exists entries selector, Declares root name entries selector
  · rcases hdeclared with ⟨entries, selector, hdeclares⟩
    rcases h name entries selector hdeclares with ⟨entries', hdeclares', hsame⟩
    cases htext : selector.toText with
    | error e => rw [choiceOf_of_noText hdeclares htext, choiceOf_of_noText hdeclares' htext]
    | ok text =>
        rw [choiceOf_of_text hdeclares htext, choiceOf_of_text hdeclares' htext, hsame text htext]
  · have hnone : forall entries selector, ¬Declares root name entries selector :=
      fun entries selector hdeclares => hdeclared ⟨entries, selector, hdeclares⟩
    rw [choiceOf_of_not_declares hnone, choiceOf_of_not_declares]
    intro entries' selector' hdeclares'
    rcases h' name entries' selector' hdeclares' with ⟨entries, hdeclares, _⟩
    exact hnone entries selector' hdeclares

theorem Entries.get?_eq_some_iff {entries : Entries} (hnodup : (entries.map Prod.fst).Nodup)
    (key : String) (v : Value) : Entries.get? entries key = some v <-> (key, v) ∈ entries := by
  induction entries with
  | nil => simp [Entries.get?_nil]
  | cons entry rest ih =>
      rcases entry with ⟨k, w⟩
      rw [List.map_cons, List.nodup_cons] at hnodup
      rw [Entries.get?_cons, List.mem_cons, ← ih hnodup.right, Prod.mk.injEq]
      by_cases hk : k = key
      · subst hk
        have hrest : Entries.get? rest k ≠ some v := fun h =>
          hnodup.left (List.mem_map.mpr ⟨(k, v), (ih hnodup.right).mp h, rfl⟩)
        simp [hrest, eq_comm]
      · simp [hk, Ne.symm hk]

theorem covers_of_get? {root' : Entries}
    (h : forall name, Entries.get? root' name = Entries.get? root name) : Covers root root' := by
  intro name entries selector hdeclares
  exact ⟨entries, ⟨(h name).trans hdeclares.table, hdeclares.selects⟩, fun _ _ => rfl⟩

theorem get?_perm {root' : Entries} (hperm : root'.Perm root) (hnodup : (root.map Prod.fst).Nodup)
    (name : String) : Entries.get? root' name = Entries.get? root name := by
  ext v
  rw [Entries.get?_eq_some_iff hnodup,
    Entries.get?_eq_some_iff ((hperm.map Prod.fst).nodup_iff.mpr hnodup), hperm.mem_iff]

theorem ofEntries_perm {root' : Entries} (hfits : Value.Fits root) (hperm : root'.Perm root)
    (hnodup : (root.map Prod.fst).Nodup) : ofEntries root' = ofEntries root := by
  have hget := get?_perm hperm hnodup
  exact ofEntries_congr hfits (hfits.perm hperm)
    (choiceOf_congr (covers_of_get? hget) (covers_of_get? fun name => (hget name).symm))

theorem ofEntries_of_not_fits (h : ¬Value.Fits root) :
    exists n path, Value.Leads (.table root) path (.uint n) ∧
      n.width.signedBound ≤ n.value ∧
      ofEntries root = .error (.moduleConfig (Value.tooLarge n path).message) := by
  rw [← Value.fits_iff, ← Ne, Option.ne_none_iff_exists'] at h
  rcases h with ⟨e, he⟩
  rcases Value.leads_of_oversizedEntry root he with ⟨key, w, n, path, hentry, hleads, hn, rfl⟩
  refine ⟨n, _, Value.Leads.entry hentry hleads, hn, ?_⟩
  unfold ofEntries Value.wholeEntries
  rw [he]

theorem exists_ofEntries_iff (hfits : Value.Fits root) :
    (exists a, ofEntries root = .ok a) <->
      forall name entries selector, Declares root name entries selector ->
        exists choice, Chooses entries selector choice := by
  constructor
  · rintro ⟨a, ha⟩ name entries selector hdeclares
    rcases hdeclares.outcome with ⟨e, he, _⟩ | ⟨choice, _, hchooses⟩
    · exact absurd he (accepted_of_ofEntries ha name e)
    · exact ⟨choice, hchooses⟩
  · intro hall
    cases h : ofEntries root with
    | ok a => exact ⟨a, rfl⟩
    | error e =>
        rcases first_of_ofEntries hfits h with ⟨name, hname, _⟩
        rcases refuses_of_choiceOf hname with ⟨entries, selector, hdeclares, hrefuses⟩
        rcases hall name entries selector hdeclares with ⟨choice, hchooses⟩
        exact absurd hchooses (hrefuses.not_chooses choice)

/-- The error is about the smallest of the modules that cannot be taken. -/
theorem refuses_of_ofEntries {e : ModuleError} (hfits : Value.Fits root)
    (h : ofEntries root = .error e) :
    exists name entries selector, Declares root name entries selector ∧
      Refuses name selector e ∧
      forall other entries' selector', Declares root other entries' selector' ->
        (forall choice, ¬Chooses entries' selector' choice) ->
        other = name ∨ Text.bytes name < Text.bytes other := by
  rcases first_of_ofEntries hfits h with ⟨name, hname, hmin⟩
  rcases refuses_of_choiceOf hname with ⟨entries, selector, hdeclares, hrefuses⟩
  refine ⟨name, entries, selector, hdeclares, hrefuses, ?_⟩
  intro other entries' selector' hother hnone
  rcases hother.outcome with ⟨e', he', _⟩ | ⟨choice, _, hchooses⟩
  · by_cases heq : other = name
    · exact Or.inl heq
    · refine Or.inr (Text.bytes_lt_bytes (String.not_le.mp fun hle => heq ?_))
      exact String.le_antisymm hle (hmin other e' he')
  · exact absurd hchooses (hnone choice)

/-- What a tree makes of its modules. An integer without a sign that does not fit, because it is not
below 2^63 in 64 bits or 2^127 in 128 bits, is reported wherever it stands. Otherwise the modules
are the tables of the top level that have a selector: all of them are taken, in ascending order and
with what they choose, or the smallest one that cannot be taken is reported. Nothing but the
selectors and the entries under their texts matters, and neither does the order in which the tree is
kept. -/
theorem modules_of_tree (root : Entries) :
    (¬Value.Fits root -> exists n path, Value.Leads (.table root) path (.uint n) ∧
      n.width.signedBound ≤ n.value ∧
      ofEntries root = .error (.moduleConfig (Value.tooLarge n path).message)) ∧
    (Value.Fits root ->
      ((exists a, ofEntries root = .ok a) <->
        forall name entries selector, Declares root name entries selector ->
          exists choice, Chooses entries selector choice) ∧
      (forall e, ofEntries root = .error e ->
        exists name entries selector, Declares root name entries selector ∧
          Refuses name selector e ∧
          forall other entries' selector', Declares root other entries' selector' ->
            (forall choice, ¬Chooses entries' selector' choice) ->
            other = name ∨ Text.bytes name < Text.bytes other) ∧
      (forall a, ofEntries root = .ok a ->
        a.names.Pairwise (fun n m => Text.bytes n < Text.bytes m) ∧
        forall name choice, (name, choice) ∈ a.modules <->
          exists entries selector, Declares root name entries selector ∧
            Chooses entries selector choice) ∧
      (forall root', Value.Fits root' -> Covers root root' -> Covers root' root ->
        ofEntries root' = ofEntries root) ∧
      (forall root', root'.Perm root -> (root.map Prod.fst).Nodup ->
        ofEntries root' = ofEntries root)) := by
  refine ⟨ofEntries_of_not_fits, fun hfits => ⟨exists_ofEntries_iff hfits, ?_, ?_, ?_, ?_⟩⟩
  · intro e he
    exact refuses_of_ofEntries hfits he
  · intro a ha
    refine ⟨(gathered_of_ofEntries ha).ascending.imp Text.bytes_lt_bytes, ?_⟩
    intro name choice
    rw [mem_of_ofEntries ha, choiceOf_eq_some_iff]
  · intro root' hfits' h h'
    exact ofEntries_congr hfits hfits' (choiceOf_congr h h')
  · intro root' hperm hnodup
    exact ofEntries_perm hfits hperm hnodup

def leastTooLarge : Unsigned := ⟨.word, 9223372036854775808, by decide⟩

/-- A module that can be taken, and beside it a number that does not fit. -/
def withLimit : Entries :=
  [("core", .table [("selector", .string "default")]), ("limit", .uint leastTooLarge)]

/-- The number decides, although it belongs to no module. -/
theorem modules_of_tree_with_limit :
    (forall name entries selector, Declares withLimit name entries selector ->
      exists choice, Chooses entries selector choice) ∧
    ofEntries withLimit =
      .error (.moduleConfig (Value.tooLarge leastTooLarge [.key "limit"]).message) := by
  refine ⟨?_, rfl⟩
  rintro name entries selector ⟨htable, hselects⟩
  have hentries : entries = [("selector", .string "default")] := by
    simp only [withLimit, Entries.get?_cons, Entries.get?_nil] at htable
    split_ifs at htable
    · cases htable
      rfl
    · cases htable
  rw [hentries] at hselects
  cases hselects
  refine ⟨⟨"default", .nil⟩, rfl, fun hblank => ?_, by rw [hentries]; rfl⟩
  exact absurd (hblank 'd' (by decide)) (by decide)

end Application
end ClusterNode
