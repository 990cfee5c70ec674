import ClusterNode.Text.Blank
import ClusterNode.Text.Split
import Mathlib.Data.List.Basic
import Mathlib.Data.List.TakeWhile
import Mathlib.Tactic.Common

/-!
# Trimming and cutting

Blanks around a text do not matter to what trimming leaves, also where the text is cut off at a
question mark first. A separator cuts a text in two, and the pieces of the whole are the pieces of
both sides; a line feed does the same to the lines of a file.
-/

namespace ClusterNode
namespace Text

variable {s t u v : List Char} {sep c : Char}

/-!
## Trimming

A text is what trimming leaves between two runs of blanks.
-/

def Blanks (s : List Char) : Prop := forall c, c ∈ s -> isBlank c = true

theorem dropWhile_eq_nil_of_blanks (h : Blanks s) : s.dropWhile isBlank = [] :=
  List.dropWhile_eq_nil_iff.mpr h

theorem dropWhile_blanks_append (h : Blanks u) (s : List Char) :
    (u ++ s).dropWhile isBlank = s.dropWhile isBlank :=
  List.dropWhile_append_of_pos h

theorem Blanks.reverse (h : Blanks s) : Blanks s.reverse :=
  fun c hc => h c (List.mem_reverse.mp hc)

theorem trimChars_blanks_append (h : Blanks u) (s : List Char) :
    trimChars (u ++ s) = trimChars s := by
  unfold trimChars
  rw [dropWhile_blanks_append h]

theorem trimChars_append_blanks (s : List Char) (h : Blanks v) :
    trimChars (s ++ v) = trimChars s := by
  unfold trimChars
  rw [List.dropWhile_append]
  split
  · rename_i hs
    rw [List.isEmpty_iff.mp hs, dropWhile_eq_nil_of_blanks h]
  · rw [List.reverse_append, dropWhile_blanks_append h.reverse]

theorem exists_eq_append_trimChars (s : List Char) :
    exists u v, Blanks u ∧ Blanks v ∧ s = u ++ trimChars s ++ v := by
  refine ⟨s.takeWhile isBlank, ((s.dropWhile isBlank).reverse.takeWhile isBlank).reverse,
    fun c hc => List.mem_takeWhile_imp hc, ?_, ?_⟩
  · intro c hc
    exact List.mem_takeWhile_imp (List.mem_reverse.mp hc)
  · unfold trimChars
    rw [List.append_assoc, ← List.reverse_append, List.takeWhile_append_dropWhile,
      List.reverse_reverse, List.takeWhile_append_dropWhile]

theorem trimChars_eq_self (hfirst : forall c, s.head? = some c -> isBlank c = false)
    (hlast : forall c, s.getLast? = some c -> isBlank c = false) : trimChars s = s := by
  have hstays : forall t : List Char, (forall c, t.head? = some c -> isBlank c = false) ->
      t.dropWhile isBlank = t := by
    intro t ht
    cases t with
    | nil => rfl
    | cons c rest => exact List.dropWhile_cons_of_neg (by simp [ht c rfl])
  unfold trimChars
  rw [hstays s hfirst, hstays s.reverse ?_, List.reverse_reverse]
  intro c hc
  exact hlast c (by simpa using hc)

theorem trimChars_eq_nil_iff : trimChars s = [] <-> Blanks s := by
  constructor
  · intro h
    rcases exists_eq_append_trimChars s with ⟨u, v, hu, hv, hs⟩
    rw [h, List.append_nil] at hs
    intro c hc
    rw [hs] at hc
    exact (List.mem_append.mp hc).elim (hu c) (hv c)
  · intro h
    unfold trimChars
    rw [dropWhile_eq_nil_of_blanks h]
    rfl

/-!
## The cut at a character

A text is cut at the first separator in one way only, and where it is cut off does not depend on the
blanks around it.
-/

theorem before_append_of_notMem (h : c ∉ s) (t : List Char) : before c (s ++ t) = s ++ before c t :=
  List.takeWhile_append_of_pos fun d hd => by
    rw [bne_iff_ne]
    rintro rfl
    exact h hd

theorem before_append_of_mem (h : c ∈ s) (t : List Char) : before c (s ++ t) = before c s := by
  rcases List.append_of_mem h with ⟨p, q, rfl⟩
  induction p with
  | nil => simp [before]
  | cons d rest ih =>
      unfold before at ih ⊢
      by_cases hd : d = c
      · simp [hd]
      · simpa [hd] using ih

theorem before_eq_self (h : c ∉ s) : before c s = s := by
  have hs := before_append_of_notMem h []
  rw [List.append_nil] at hs
  rw [hs]
  exact List.append_nil s

theorem eq_of_append_sep {sep : Char} {s t u v : List Char} (hs : sep ∉ s) (ht : sep ∉ t)
    (h : s ++ sep :: u = t ++ sep :: v) : s = t ∧ u = v := by
  have hcut : cutFirst sep (t ++ sep :: v) = some (s, u) :=
    cutFirst_eq_some_iff.mpr ⟨h.symm, hs⟩
  have hcut' : cutFirst sep (t ++ sep :: v) = some (t, v) :=
    cutFirst_eq_some_iff.mpr ⟨rfl, ht⟩
  exact Prod.mk.inj (Option.some.inj (hcut.symm.trans hcut'))

theorem trimChars_before_trimChars (hc : isBlank c = false) (s : List Char) :
    trimChars (before c (trimChars s)) = trimChars (before c s) := by
  have hnot : forall {w}, Blanks w -> c ∉ w := by
    intro w hw hmem
    cases hc.symm.trans (hw c hmem)
  rcases exists_eq_append_trimChars s with ⟨u, v, hu, hv, hs⟩
  conv_rhs => rw [hs, List.append_assoc, before_append_of_notMem (hnot hu)]
  rw [trimChars_blanks_append hu]
  by_cases hmem : c ∈ trimChars s
  · rw [before_append_of_mem hmem]
  · rw [before_append_of_notMem hmem, before_eq_self hmem, before_eq_self (hnot hv),
      trimChars_append_blanks _ hv]

/-!
## Pieces and lines

Each character but the separators belongs to a piece. The carriage return of a line end is blank.
-/

theorem pieces_of_notMem (h : sep ∉ s) : pieces sep s = [s] := by
  induction s with
  | nil => rfl
  | cons c rest ih =>
      have hc : ¬c = sep := fun heq => h (heq ▸ List.mem_cons_self)
      rw [pieces, if_neg hc, ih fun hmem => h (List.mem_cons_of_mem c hmem)]

/-- A separator cuts the text in two. -/
theorem pieces_append (sep : Char) (s t : List Char) :
    pieces sep (s ++ sep :: t) = pieces sep s ++ pieces sep t := by
  induction s with
  | nil => simp [pieces]
  | cons c rest ih =>
      by_cases hc : c = sep
      · simp [pieces, hc, ih]
      · rw [List.cons_append, pieces, if_neg hc, pieces, if_neg hc, ih]
        cases hrest : pieces sep rest with
        | nil => exact absurd hrest (pieces_ne_nil sep rest)
        | cons piece others => rfl

theorem length_pieces (sep : Char) (s : List Char) :
    (pieces sep s).length = s.count sep + 1 := by
  induction s with
  | nil => rfl
  | cons c rest ih =>
      rw [pieces]
      split
      · rename_i hc
        rw [hc, List.count_cons_self, List.length_cons, ih]
      · rename_i hc
        rw [List.count_cons_of_ne hc, ← ih]
        cases hrest : pieces sep rest with
        | nil => exact absurd hrest (pieces_ne_nil sep rest)
        | cons piece others => rfl

theorem eq_or_mem_piece (sep : Char) (h : c ∈ s) :
    c = sep ∨ exists piece, piece ∈ pieces sep s ∧ c ∈ piece := by
  induction s with
  | nil => cases h
  | cons d rest ih =>
      rw [pieces]
      split
      · rename_i hd
        rcases List.mem_cons.mp h with rfl | hrest
        · exact Or.inl hd
        · rcases ih hrest with hsep | ⟨piece, hpiece, hc⟩
          · exact Or.inl hsep
          · exact Or.inr ⟨piece, List.mem_cons_of_mem _ hpiece, hc⟩
      · cases hpieces : pieces sep rest with
        | nil => exact absurd hpieces (pieces_ne_nil sep rest)
        | cons first others =>
            rw [hpieces] at ih
            rcases List.mem_cons.mp h with rfl | hrest
            · exact Or.inr ⟨_, List.mem_cons_self, List.mem_cons_self⟩
            · rcases ih hrest with hsep | ⟨piece, hpiece, hc⟩
              · exact Or.inl hsep
              · rcases List.mem_cons.mp hpiece with rfl | hothers
                · exact Or.inr ⟨_, List.mem_cons_self, List.mem_cons_of_mem d hc⟩
                · exact Or.inr ⟨piece, List.mem_cons_of_mem _ hothers, hc⟩

theorem lines_append (h : '\n' ∉ s) (t : List Char) :
    lines (s ++ '\n' :: t) = dropCarriageReturn s :: lines t := by
  unfold lines
  rw [pieces_append, pieces_of_notMem h]
  cases ht : pieces '\n' t with
  | nil => exact absurd ht (pieces_ne_nil '\n' t)
  | cons piece others => rfl

theorem lines_of_notMem (h : '\n' ∉ s) : lines s = if s.isEmpty then [] else [s] := by
  unfold lines
  rw [pieces_of_notMem h]
  rfl

theorem trimChars_dropCarriageReturn (s : List Char) :
    trimChars (dropCarriageReturn s) = trimChars s := by
  unfold dropCarriageReturn
  split
  · rename_i rest hs
    have hsplit : s = rest.reverse ++ ['\r'] := by
      rw [← List.reverse_reverse s, hs]
      simp
    rw [hsplit, trimChars_append_blanks]
    intro c hc
    rw [List.mem_singleton.mp hc]
    rfl
  · rfl

end Text
end ClusterNode
