import ClusterNode.Config.Value
import ClusterNode.Text.Lowercase
import ClusterNode.Text.Quoted

/-!
# Conversion of configuration values

A typed setting takes what can stand for it: a text takes any single value, a number takes a truth
value, a number or the text of a number, and a truth value the other way round. A value that cannot
be taken is an error that says what was found, what was expected, and under which key.
-/

namespace ClusterNode

/-- What was found, in the words of a diagnostic. -/
inductive Found
  | bool (value : Bool)
  | integer (value : Signed)
  | natural (value : Unsigned)
  | sizedInteger (width : Width) (value : Int)
  | sizedNatural (width : Width) (value : Nat)
  | float (value : Number.Binary64)
  | string (text : String)
  | unit
  | sequence
  | map
  deriving DecidableEq, Repr

namespace Found

def tick : Char := Char.ofNat 96

def ticked (s : String) : String := String.singleton tick ++ s ++ String.singleton tick

/-- A finite number always shows a point. -/
def floatText (x : Number.Binary64) : String :=
  let text := x.toText
  match x with
  | .finite _ _ _ => if text.toList.contains '.' then text else text ++ ".0"
  | _ => text

/-- Only a wide integer is given with its type. -/
def wideAs (width : Width) (type : String) : String :=
  match width with
  | .word => ""
  | .wide => " as " ++ type

def toText : Found -> String
  | bool b => "boolean " ++ ticked (toString b)
  | integer i => "integer " ++ ticked (toString i) ++ wideAs i.width "i128"
  | natural n => "integer " ++ ticked (toString n) ++ wideAs n.width "u128"
  | sizedInteger width i => toString width.bits ++ "-bit integer " ++ ticked (toString i)
  | sizedNatural width n => toString width.bits ++ "-bit unsigned integer " ++ ticked (toString n)
  | float x => "floating point " ++ ticked (floatText x)
  | string s => "string " ++ Text.quoted s
  | unit => "unit value"
  | sequence => "sequence"
  | map => "map"

end Found

inductive Segment
  | key (name : String)
  | index (n : Nat)
  deriving DecidableEq, Repr

namespace Segment

/-- A point stands only between two keys. -/
def pathText : List Segment -> String
  | [] => ""
  | key name :: rest =>
      let point := match rest with
        | key _ :: _ => "."
        | _ => ""
      name ++ point ++ pathText rest
  | index n :: rest => "[" ++ toString n ++ "]" ++ pathText rest

end Segment

inductive Mistake
  | type (found : Found) (expected : String)
  | noVariant (name variant : String)
  | notVariant (name : String)
  deriving DecidableEq, Repr

structure ConversionError where
  mistake : Mistake
  path : List Segment
  deriving DecidableEq, Repr

def Mistake.message : Mistake -> String
  | type found expected => "invalid type: " ++ found.toText ++ ", expected " ++ expected
  | noVariant name variant =>
      "enum " ++ name ++ " does not have variant constructor " ++ variant
  | notVariant name =>
      "value of enum " ++ name ++
        " should be represented by either string or table with exactly one key"

namespace ConversionError

def message (e : ConversionError) : String :=
  e.mistake.message ++
    (if e.path.isEmpty then "" else " for key " ++ Found.ticked (Segment.pathText e.path))

def beneath (s : Segment) (e : ConversionError) : ConversionError := { e with path := s :: e.path }

end ConversionError

namespace Value

def mistaken {α : Type} (found : Found) (expected : String) : Except ConversionError α :=
  .error { mistake := .type found expected, path := [] }

def found : Value -> Found
  | nil => .unit
  | bool b => .bool b
  | int i => .integer i
  | uint n => .natural n
  | float x => .float x
  | string s => .string s
  | list _ => .sequence
  | table _ => .map

/-!
## Single values
-/

def toText (v : Value) : Except ConversionError String :=
  match v with
  | string s => .ok s
  | bool b => .ok (toString b)
  | int i => .ok (toString i)
  | uint n => .ok (toString n)
  | float x => .ok x.toText
  | nil | list _ | table _ => mistaken v.found "a string"

def isYes (s : String) : Bool := ["true", "on", "yes"].contains (Text.lower s)

def isNo (s : String) : Bool := ["false", "off", "no"].contains (Text.lower s)

def toWord (v : Value) : Except ConversionError Nat :=
  match v with
  | int i =>
      if 0 ≤ i.value ∧ i.value < Int.ofNat Number.wordBound then .ok i.value.toNat
      else mistaken (.sizedInteger i.width i.value) "an unsigned 64 bit or less integer"
  | uint n =>
      if n.value < Number.wordBound then .ok n.value
      else mistaken (.sizedNatural n.width n.value) "an unsigned 64 bit or less integer"
  | bool b => .ok b.toNat
  | float x => .ok (x.toNatClamped Number.maxWord)
  | string s =>
      if isYes s then .ok 1
      else if isNo s then .ok 0
      else
        match Number.word? s.toList with
        | some n => .ok n
        | none => mistaken v.found "an integer"
  | nil | list _ | table _ => mistaken v.found "an integer"

def toPort (v : Value) : Except ConversionError UInt16 := do
  let n ← v.toWord
  if n < 65536 then .ok n.toUInt16
  else mistaken (.sizedNatural .word n) "an unsigned 16 bit integer"

def toBool (v : Value) : Except ConversionError Bool :=
  match v with
  | bool b => .ok b
  | int i => .ok (i.value != 0)
  | uint n => .ok (n.value != 0)
  | float x => .ok (!x.isZero)
  | string s =>
      if s == "1" || isYes s then .ok true
      else if s == "0" || isNo s then .ok false
      else mistaken v.found "a boolean"
  | nil | list _ | table _ => mistaken v.found "a boolean"

/-!
## Lists and alternatives
-/

def toTextsFrom (n : Nat) : List Value -> Except ConversionError (List String)
  | [] => .ok []
  | v :: rest =>
      match v.toText with
      | .error e => .error (e.beneath (.index n))
      | .ok s => (toTextsFrom (n + 1) rest).map (s :: ·)

def toTexts (v : Value) : Except ConversionError (List String) :=
  match v with
  | list items => toTextsFrom 0 items
  | _ => mistaken v.found "a sequence"

def toOptionalText (v : Value) : Except ConversionError (Option String) :=
  if v.isNil then .ok none else v.toText.map some

/-- The name of one of the variants, alone or as the only key of a table. -/
def toVariant {α : Type} (name : String) (variants : List (String × α)) (v : Value) :
    Except ConversionError α :=
  let pick (variant : String) : Except ConversionError α :=
    match variants.find? fun (n, _) => n == variant with
    | some (_, a) => .ok a
    | none => .error { mistake := .noVariant name variant, path := [] }
  match v with
  | string s => pick s
  | table [(key, _)] => pick key
  | _ => .error { mistake := .notVariant name, path := [] }

/-!
## Records
-/

structure Property where
  segment : Segment
  value : Value

/-- The property of a name: under its key in a table, at its place in a list. -/
def property? (names : List String) (properties : Value) (name : String) : Option Property :=
  match properties with
  | table entries => (Entries.get? entries name).map fun value => ⟨.key name, value⟩
  | list items => (items[names.idxOf name]?).map fun value => ⟨.index (names.idxOf name), value⟩
  | _ => none

/-- Converts a property, or takes the default where there is none. -/
def Property.read {α : Type} (default : α) (convert : Value -> Except ConversionError α) :
    Option Property -> Except ConversionError α
  | none => .ok default
  | some p =>
      match convert p.value with
      | .ok a => .ok a
      | .error e => .error (e.beneath p.segment)

/-- Reads a record out of a table or a list of properties. Nil leaves all at the default; anything
else is no record. -/
def readRecord {α : Type} (record : String) (names : List String) (default : α)
    (ofFound : (String -> Option Property) -> Except ConversionError α) (properties : Value) :
    Except ConversionError α :=
  match properties with
  | nil => .ok default
  | table _ | list _ => ofFound (property? names properties)
  | v => mistaken v.found ("struct " ++ record)

/-!
## Whole trees

A value that is taken as a whole has signs on all its integers. One that does not fit into an
integer of its width with a sign is a mistake.
-/

mutual

/-- The complaint about the first integer that does not fit. -/
def oversized? : Value -> Option ConversionError
  | uint n =>
      match n.signed? with
      | some _ => none
      | none => some { mistake := .type (.natural n) "any valid configuration value", path := [] }
  | list items => oversizedItem? 0 items
  | table entries => oversizedEntry? entries
  | _ => none

def oversizedItem? (n : Nat) : List Value -> Option ConversionError
  | [] => none
  | v :: rest =>
      match oversized? v with
      | some e => some (e.beneath (.index n))
      | none => oversizedItem? (n + 1) rest

def oversizedEntry? : List (String × Value) -> Option ConversionError
  | [] => none
  | (key, v) :: rest =>
      match oversized? v with
      | some e => some (e.beneath (.key key))
      | none => oversizedEntry? rest

end

mutual

/-- The value with signs on all integers that fit. -/
def signed : Value -> Value
  | uint n =>
      match n.signed? with
      | some i => int i
      | none => uint n
  | list items => list (signedItems items)
  | table entries => table (signedEntries entries)
  | v => v

def signedItems : List Value -> List Value
  | [] => []
  | v :: rest => signed v :: signedItems rest

def signedEntries : List (String × Value) -> List (String × Value)
  | [] => []
  | (key, v) :: rest => (key, signed v) :: signedEntries rest

end

def asWhole (v : Value) : Except ConversionError Value :=
  match v.oversized? with
  | some e => .error e
  | none => .ok v.signed

def wholeEntries (entries : Entries) : Except ConversionError Entries :=
  match oversizedEntry? entries with
  | some e => .error e
  | none => .ok (signedEntries entries)

end Value
end ClusterNode
