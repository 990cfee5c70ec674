import ClusterNode.Text.CaseTable

/-!
# Lower case

Full lower case of a text. Every character has one lower case form, with two exceptions: the capital
I with a dot becomes two characters, and the capital sigma depends on its neighbours, since it has
another form at the end of a word.
-/

namespace ClusterNode
namespace Text

def isCased (c : Char) : Bool := inRanges casedRanges c.toNat

def isCaseIgnorable (c : Char) : Bool := inRanges caseIgnorableRanges c.toNat

def lowerFromRows : List (Nat × Nat × Nat × Int) -> Nat -> Nat
  | [], n => n
  | (first, last, step, distance) :: rows, n =>
      if first ≤ n && n ≤ last && (n - first) % step == 0 then (Int.ofNat n + distance).toNat
      else lowerFromRows rows n

def lowerChar (c : Char) : Char :=
  Char.ofNat (lowerFromRows lowerRows c.toNat)

def asciiLowerChar (c : Char) : Char :=
  if 'A' ≤ c && c ≤ 'Z' then Char.ofNat (c.toNat + 32) else c

def asciiLower (s : String) : String :=
  String.ofList (s.toList.map asciiLowerChar)

def meetsCased (s : List Char) : Bool :=
  match s.dropWhile isCaseIgnorable with
  | [] => false
  | c :: _ => isCased c

/-- A sigma is final when a cased character comes before it and none after it. -/
def lowerSigma (before after : List Char) : Char :=
  if meetsCased before && !meetsCased after then 'ς' else 'σ'

/-- `before` holds the characters already passed, nearest first. -/
def lowerFrom (before : List Char) : List Char -> List Char
  | [] => []
  | c :: rest =>
      let lowered :=
        if c = 'Σ' then [lowerSigma before rest]
        else if c = 'İ' then ['i', Char.ofNat 0x307]
        else [lowerChar c]
      lowered ++ lowerFrom (c :: before) rest

def lower (s : String) : String :=
  String.ofList (lowerFrom [] s.toList)

end Text
end ClusterNode
