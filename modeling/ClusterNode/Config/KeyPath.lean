import ClusterNode.Config.Value
import ClusterNode.Number.Decimal
import ClusterNode.Text.Split

/-!
# Key paths

A key of a configuration may stand for a path into it: parts of letters, digits, underscores and
hyphens with points between them, each followed by any number of positions in brackets. A position
may count from the end of a list.
-/

namespace ClusterNode

inductive KeyStep
  | key (name : String)
  | position (n : Int)
  deriving DecidableEq, Repr

abbrev KeyPath := List KeyStep

namespace KeyPath

def isKeyChar (c : Char) : Bool :=
  ('a' ≤ c && c ≤ 'z') || ('A' ≤ c && c ≤ 'Z') || ('0' ≤ c && c ≤ '9') || c == '_' || c == '-'

def position? (s : List Char) : Option KeyStep :=
  match s.reverse with
  | ']' :: inside =>
      let digits := inside.reverse
      if digits.head? = some '+' then none else (Number.integer? digits).map .position
  | _ => none

def part? (s : List Char) : Option KeyPath :=
  match Text.pieces '[' s with
  | [] => none
  | name :: positions =>
      if name.isEmpty || !name.all isKeyChar then none
      else (positions.mapM position?).map (.key (String.ofList name) :: ·)

def ofText? (s : String) : Option KeyPath :=
  ((Text.pieces '.' s.toList).mapM part?).map List.flatten

/-- The path that a key of the top level stands for. What is no path is a key as it is. -/
def ofKey (key : String) : KeyPath := (ofText? key).getD [.key key]

end KeyPath

namespace Value

def asList? : Value -> Option (List Value)
  | list items => some items
  | _ => none

def at? : KeyPath -> Value -> Option Value
  | [], v => some v
  | .key name :: rest, v => do
      let entries ← v.asTable?
      let inner ← Entries.get? entries name
      at? rest inner
  | .position n :: rest, v => do
      let items ← v.asList?
      let place := if 0 ≤ n then n else Int.ofNat items.length + n
      if place < 0 then none
      else
        let inner ← items[place.toNat]?
        at? rest inner

/-- A list that is long enough for a position, filled up with nil, and the place of the position. -/
def makeRoom (items : List Value) (n : Int) : List Value × Nat :=
  let place := if 0 ≤ n then n else Int.ofNat items.length + n
  if place < 0 then (List.replicate place.natAbs nil ++ items, 0)
  else (items ++ List.replicate (place.toNat + 1 - items.length) nil, place.toNat)

/-- Changes the value at a path. What is missing on the way is created, and what is no table or no
list where one is needed gives way to one. -/
def modifyAt (f : Value -> Value) : KeyPath -> Value -> Value
  | [], v => f v
  | .key name :: rest, v =>
      let entries := v.asTable?.getD []
      table (Entries.set entries name (modifyAt f rest ((Entries.get? entries name).getD nil)))
  | .position n :: rest, v =>
      let (items, place) := makeRoom (v.asList?.getD []) n
      list (items.modify place (modifyAt f rest))

end Value
end ClusterNode
