/-!
# Cutting text at a character

Pieces between separators, the cut at the first or the last occurrence of a character, and the lines
of a file. Each cut is stated on lists of characters.
-/

namespace ClusterNode
namespace Text

/-- The pieces between the occurrences of `sep`; there is always at least one. -/
def pieces (sep : Char) : List Char -> List (List Char)
  | [] => [[]]
  | c :: rest =>
      if c = sep then [] :: pieces sep rest
      else
        match pieces sep rest with
        | [] => [[c]]
        | piece :: others => (c :: piece) :: others

/-- The text before and after the first occurrence of `c`. -/
def cutFirst (c : Char) : List Char -> Option (List Char × List Char)
  | [] => none
  | d :: rest =>
      if d = c then some ([], rest)
      else (cutFirst c rest).map fun (before, after) => (d :: before, after)

/-- The text before and after the last occurrence of `c`. -/
def cutLast (c : Char) (s : List Char) : Option (List Char × List Char) :=
  (cutFirst c s.reverse).map fun (after, before) => (before.reverse, after.reverse)

def before (c : Char) (s : List Char) : List Char :=
  s.takeWhile (· != c)

def dropCarriageReturn (line : List Char) : List Char :=
  match line.reverse with
  | '\r' :: rest => rest.reverse
  | _ => line

/-- Each line but the last loses a carriage return at its end; an empty last line is no line. -/
def linesOfPieces : List (List Char) -> List (List Char)
  | [] => []
  | [last] => if last.isEmpty then [] else [last]
  | line :: rest => dropCarriageReturn line :: linesOfPieces rest

def lines (s : List Char) : List (List Char) :=
  linesOfPieces (pieces '\n' s)

def join (sep : String) : List String -> String
  | [] => ""
  | [s] => s
  | s :: rest => s ++ sep ++ join sep rest

/-!
## Laws of the cuts
-/

theorem pieces_ne_nil (sep : Char) (s : List Char) : pieces sep s ≠ [] := by
  cases s with
  | nil => simp [pieces]
  | cons c rest =>
      rw [pieces]
      split
      · simp
      · split <;> simp

theorem cutFirst_eq_none_iff {c : Char} {s : List Char} : cutFirst c s = none <-> c ∉ s := by
  induction s with
  | nil => simp [cutFirst]
  | cons d rest ih =>
      rw [cutFirst]
      split
      · rename_i h
        subst h
        simp
      · rename_i h
        simp [ih]
        exact fun _ hcd => h hcd.symm

theorem cutFirst_eq_some_iff {c : Char} {s before after : List Char} :
    cutFirst c s = some (before, after) <-> s = before ++ c :: after ∧ c ∉ before := by
  induction s generalizing before with
  | nil => simp [cutFirst]
  | cons d rest ih =>
      rw [cutFirst]
      split
      · rename_i h
        subst h
        constructor
        · intro h
          simp at h
          obtain ⟨rfl, rfl⟩ := h
          simp
        · rintro ⟨h, hb⟩
          cases before with
          | nil => simpa using h
          | cons e more =>
              simp at h
              exact absurd h.1 (by simp at hb; exact hb.1)
      · rename_i h
        constructor
        · intro hs
          simp at hs
          obtain ⟨p, hp, rfl⟩ := hs
          obtain ⟨rfl, hp'⟩ := ih.1 hp
          simp
          exact ⟨fun hcd => h hcd.symm, hp'⟩
        · rintro ⟨hs, hb⟩
          cases before with
          | nil =>
              simp at hs
              exact absurd hs.1 h
          | cons e more =>
              simp at hs hb
              obtain ⟨rfl, rfl⟩ := hs
              simp
              exact ih.2 ⟨rfl, hb.2⟩

theorem cutLast_eq_none_iff {c : Char} {s : List Char} : cutLast c s = none <-> c ∉ s := by
  simp [cutLast, cutFirst_eq_none_iff]

theorem cutLast_eq_some_iff {c : Char} {s before after : List Char} :
    cutLast c s = some (before, after) <-> s = before ++ c :: after ∧ c ∉ after := by
  simp only [cutLast, Option.map_eq_some_iff, Prod.exists, Prod.mk.injEq]
  constructor
  · rintro ⟨a, b, h, rfl, rfl⟩
    obtain ⟨hs, ha⟩ := cutFirst_eq_some_iff.1 h
    have := congrArg List.reverse hs
    simp at this
    exact ⟨by simpa using this, by simpa using ha⟩
  · rintro ⟨rfl, ha⟩
    exact ⟨after.reverse, before.reverse,
      cutFirst_eq_some_iff.2 ⟨by simp, by simpa using ha⟩, by simp, by simp⟩

end Text
end ClusterNode
