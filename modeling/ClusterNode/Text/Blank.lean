/-!
# Blank characters and trimming

The characters with the Unicode property `White_Space`, and the text between the first and the last
character that is not blank.
-/

namespace ClusterNode
namespace Text

def isBlank (c : Char) : Bool :=
  let n := c.toNat
  (0x9 ≤ n && n ≤ 0xD) || n == 0x20 || n == 0x85 || n == 0xA0 || n == 0x1680 ||
    (0x2000 ≤ n && n ≤ 0x200A) || n == 0x2028 || n == 0x2029 || n == 0x202F || n == 0x205F ||
    n == 0x3000

def trimChars (s : List Char) : List Char :=
  ((s.dropWhile isBlank).reverse.dropWhile isBlank).reverse

def trim (s : String) : String :=
  String.ofList (trimChars s.toList)

def isBlankText (s : String) : Bool :=
  (trimChars s.toList).isEmpty

/-!
## What trimming leaves
-/

theorem toList_trim (s : String) : (trim s).toList = trimChars s.toList := by
  simp [trim]

theorem dropWhile_head? {p : Char -> Bool} {s : List Char} {c : Char}
    (h : (s.dropWhile p).head? = some c) : p c = false := by
  induction s with
  | nil => simp at h
  | cons d rest ih =>
      by_cases hd : p d = true
      · rw [List.dropWhile_cons_of_pos hd] at h
        exact ih h
      · rw [List.dropWhile_cons_of_neg hd] at h
        simp at h
        subst h
        simpa using hd

theorem trimChars_head? {s : List Char} {c : Char}
    (h : (trimChars s).head? = some c) : isBlank c = false := by
  have hsuffix : ((s.dropWhile isBlank).reverse.dropWhile isBlank) <:+
      (s.dropWhile isBlank).reverse := List.dropWhile_suffix isBlank
  have hstart : trimChars s <+: s.dropWhile isBlank := by
    have h' := List.reverse_prefix.2 hsuffix
    simpa [trimChars] using h'
  obtain ⟨rest, hrest⟩ := hstart
  apply dropWhile_head? (s := s)
  rw [← hrest, List.head?_append, h]
  rfl

end Text
end ClusterNode
