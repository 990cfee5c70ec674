import ClusterNode.Config.Integer
import ClusterNode.Json.Reader

/-!
# Configuration values

The tree of a configuration. A whole number of a document is an integer with a sign if it fits into
one of 64 bits, and else one without a sign; all other numbers are floating-point numbers. A table
holds each key once.
-/

namespace ClusterNode

open Number

inductive Value
  | nil
  | bool (value : Bool)
  | int (value : Signed)
  | uint (value : Unsigned)
  | float (value : Binary64)
  | string (text : String)
  | list (items : List Value)
  | table (entries : List (String × Value))
  deriving Repr

abbrev Entries := List (String × Value)

namespace Entries

def get? (entries : Entries) (key : String) : Option Value :=
  (entries.find? fun (k, _) => k == key).map Prod.snd

def replaced (key : String) (value : Value) (entry : String × Value) : String × Value :=
  if entry.1 == key then (entry.1, value) else entry

/-- Replaces the value of a key where it stands, or adds the key at the end. -/
def set (entries : Entries) (key : String) (value : Value) : Entries :=
  if entries.any fun (k, _) => k == key then entries.map (replaced key value)
  else entries ++ [(key, value)]

def sortedKeys (entries : Entries) : List String :=
  (entries.map Prod.fst).mergeSort fun a b => a ≤ b

end Entries

namespace Value

def ofNumeral? (n : Numeral) : Option Value :=
  match n.toInteger? with
  | some i => ((Signed.ofInt? .word i).map .int).or ((Unsigned.ofNat? .word i.toNat).map .uint)
  | none => n.toBinary64?.map .float

mutual

/-- The value of a document; of equal keys the last one counts. -/
def ofJson? : Json -> Option Value
  | .null => some .nil
  | .bool b => some (.bool b)
  | .number n => ofNumeral? n
  | .string s => some (.string s)
  | .array items => (ofItems? items).map .list
  | .object members => (ofMembers? [] members).map .table

def ofItems? : List Json -> Option (List Value)
  | [] => some []
  | item :: rest =>
      match ofJson? item, ofItems? rest with
      | some v, some vs => some (v :: vs)
      | _, _ => none

def ofMembers? (entries : Entries) : List (String × Json) -> Option Entries
  | [] => some entries
  | (key, item) :: rest =>
      match ofJson? item with
      | some v => ofMembers? (entries.set key v) rest
      | none => none

end

def isNil : Value -> Bool
  | nil => true
  | _ => false

def asTable? : Value -> Option Entries
  | table entries => some entries
  | _ => none

end Value

namespace Entries

/-!
## Laws of a table
-/

theorem get?_nil (key : String) : get? [] key = none := rfl

theorem get?_cons (k key : String) (v : Value) (entries : Entries) :
    get? ((k, v) :: entries) key = if k == key then some v else get? entries key := by
  by_cases h : k == key <;> simp [get?, h]

theorem isSome_get? (entries : Entries) (key : String) :
    (get? entries key).isSome = entries.any fun (k, _) => k == key := by
  induction entries with
  | nil => rfl
  | cons e rest ih =>
      obtain ⟨k, v⟩ := e
      rw [get?_cons]
      by_cases hk : k == key <;> simp [hk, ih]

end Entries
end ClusterNode
