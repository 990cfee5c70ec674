import ClusterNode.Text.Lowercase

/-!
# Selecting a peer

Three ways to pick one element of a list: by a key, in turn, or always the first. A selector that
picks in turn counts its picks in a word of 64 bits; an empty list is not counted.
-/

namespace ClusterNode

inductive Selector
  | hashCode
  | rolling (cursor : UInt64)
  | foreverFirst
  deriving DecidableEq, Repr

namespace Selector

/-- The text is no selector; it is kept in lower case. -/
structure Unknown where
  text : String
  deriving DecidableEq, Repr

def Unknown.message (e : Unknown) : String := "unknown peer selector '" ++ e.text ++ "'"

/-- The names of the selectors do not depend on case. -/
def ofText (s : String) : Except Unknown Selector :=
  let name := Text.lower s
  if name = "hashcode" ∨ name = "hash_code" then .ok .hashCode
  else if name = "rolling" then .ok (.rolling 0)
  else if name = "foreverfirst" ∨ name = "forever_first" then .ok .foreverFirst
  else .error { text := name }

def kindName : Selector -> String
  | hashCode => "HashCode"
  | rolling _ => "Rolling"
  | foreverFirst => "ForeverFirst"

def index (s : Selector) (size : Nat) (key : UInt64) : Nat :=
  match s with
  | hashCode => key.toNat % size
  | rolling cursor => cursor.toNat % size
  | foreverFirst => 0

def advance : Selector -> Selector
  | rolling cursor => rolling (cursor + 1)
  | s => s

/-- The pick, and the selector for the next one. -/
def select {α : Type} (s : Selector) (items : List α) (key : UInt64) : Option α × Selector :=
  if items.isEmpty then (none, s)
  else (items[s.index items.length key]?, s.advance)

def selectAll {α : Type} (s : Selector) : List (List α × UInt64) -> List (Option α)
  | [] => []
  | (items, key) :: calls =>
      let (pick, s) := s.select items key
      pick :: selectAll s calls

end Selector
end ClusterNode
