import ClusterNode.Json.Basic

/-!
# Reading JSON

A strict reader: no comments, no trailing commas, no leading zeros, no control characters inside
strings, no lone surrogates, and nothing but blanks after the document. Arrays and objects nest up
to a given depth.
-/

namespace ClusterNode
namespace Json
namespace Reader

open Number

def isSpace (c : Char) : Bool := c == ' ' || c == '\n' || c == '\r' || c == '\t'

def skipSpace (s : List Char) : List Char := s.dropWhile isSpace

def expect (word : List Char) (s : List Char) : Option (List Char) :=
  if word.isPrefixOf s then some (s.drop word.length) else none

def openBrace : Char := Char.ofNat 123
def closeBrace : Char := Char.ofNat 125
def quote : Char := Char.ofNat 34

/-!
## Numbers
-/

def fraction? : List Char -> Option (List Char × List Char)
  | '.' :: rest =>
      let digits := rest.takeWhile isDigit
      if digits.isEmpty then none else some (digits, rest.dropWhile isDigit)
  | s => some ([], s)

def exponent? : List Char -> Option (Option (Bool × List Char) × List Char)
  | [] => some (none, [])
  | c :: rest =>
      if c = 'e' ∨ c = 'E' then
        let (negative, rest) := Binary64.splitSign rest
        let digits := rest.takeWhile isDigit
        if digits.isEmpty then none else some (some (negative, digits), rest.dropWhile isDigit)
      else some (none, c :: rest)

def numeral? (s : List Char) : Option (Numeral × List Char) := do
  let (negative, s) := match s with
    | '-' :: rest => (true, rest)
    | s => (false, s)
  let whole := s.takeWhile isDigit
  let s := s.dropWhile isDigit
  if whole.isEmpty || (whole.head? == some '0' && whole.length != 1) then none
  else
    let (fraction, s) ← fraction? s
    let (exponent, s) ← exponent? s
    some ({ negative, whole, fraction, exponent }, s)

/-!
## Strings
-/

def hexDigit? (c : Char) : Option Nat :=
  if '0' ≤ c ∧ c ≤ '9' then some (c.toNat - 48)
  else if 'a' ≤ c ∧ c ≤ 'f' then some (c.toNat - 87)
  else if 'A' ≤ c ∧ c ≤ 'F' then some (c.toNat - 55)
  else none

def hexUnit? : List Char -> Option (Nat × List Char)
  | a :: b :: c :: d :: rest => do
      let a ← hexDigit? a
      let b ← hexDigit? b
      let c ← hexDigit? c
      let d ← hexDigit? d
      some (((a * 16 + b) * 16 + c) * 16 + d, rest)
  | _ => none

/-- The character after a backslash and the letter u; two units make one character beyond the
first plane. -/
def unicodeEscape? (s : List Char) : Option (Char × List Char) := do
  let (high, s) ← hexUnit? s
  if 0xD800 ≤ high ∧ high < 0xDC00 then
    let s ← expect ['\\', 'u'] s
    let (low, s) ← hexUnit? s
    if 0xDC00 ≤ low ∧ low < 0xE000 then
      some (Char.ofNat (0x10000 + (high - 0xD800) * 0x400 + (low - 0xDC00)), s)
    else none
  else if 0xDC00 ≤ high ∧ high < 0xE000 then none
  else some (Char.ofNat high, s)

def escaped? : List Char -> Option (Char × List Char)
  | [] => none
  | c :: rest =>
      if c = quote ∨ c = '\\' ∨ c = '/' then some (c, rest)
      else if c = 'b' then some (Char.ofNat 8, rest)
      else if c = 'f' then some (Char.ofNat 12, rest)
      else if c = 'n' then some ('\n', rest)
      else if c = 'r' then some ('\r', rest)
      else if c = 't' then some ('\t', rest)
      else if c = 'u' then unicodeEscape? rest
      else none

/-- The characters up to the closing quote; `text` holds those already read, last first. -/
def string? : Nat -> List Char -> List Char -> Option (String × List Char)
  | 0, _, _ => none
  | _ + 1, _, [] => none
  | fuel + 1, text, c :: rest =>
      if c = quote then some (String.ofList text.reverse, rest)
      else if c = '\\' then
        match escaped? rest with
        | none => none
        | some (d, rest) => string? fuel (d :: text) rest
      else if c.toNat < 0x20 then none
      else string? fuel (c :: text) rest

def text? (s : List Char) : Option (String × List Char) := string? (s.length + 1) [] s

/-!
## Values
-/

mutual

def value? : Nat -> Nat -> List Char -> Option (Json × List Char)
  | 0, _, _ => none
  | fuel + 1, depth, s =>
      match skipSpace s with
      | [] => none
      | c :: rest =>
          if c = 'n' then (expect ['u', 'l', 'l'] rest).map (null, ·)
          else if c = 't' then (expect ['r', 'u', 'e'] rest).map (bool true, ·)
          else if c = 'f' then (expect ['a', 'l', 's', 'e'] rest).map (bool false, ·)
          else if c = quote then (text? rest).map fun (text, s) => (string text, s)
          else if c = '[' then
            if depth ≤ 1 then none
            else
              match skipSpace rest with
              | ']' :: rest => some (array [], rest)
              | rest => (items? fuel (depth - 1) rest).map fun (items, s) => (array items, s)
          else if c = openBrace then
            if depth ≤ 1 then none
            else
              match skipSpace rest with
              | [] => none
              | d :: more =>
                  if d = closeBrace then some (object [], more)
                  else
                    (members? fuel (depth - 1) (d :: more)).map fun (members, s) =>
                      (object members, s)
          else (numeral? (c :: rest)).map fun (n, s) => (number n, s)

def items? : Nat -> Nat -> List Char -> Option (List Json × List Char)
  | 0, _, _ => none
  | fuel + 1, depth, s =>
      match value? fuel depth s with
      | none => none
      | some (item, s) =>
          match skipSpace s with
          | ',' :: rest => (items? fuel depth rest).map fun (items, s) => (item :: items, s)
          | ']' :: rest => some ([item], rest)
          | _ => none

def members? : Nat -> Nat -> List Char -> Option (List (String × Json) × List Char)
  | 0, _, _ => none
  | fuel + 1, depth, s =>
      match skipSpace s with
      | [] => none
      | c :: rest =>
          if c = quote then
            match text? rest with
            | none => none
            | some (name, s) =>
                match skipSpace s with
                | ':' :: rest =>
                    match value? fuel depth rest with
                    | none => none
                    | some (item, s) =>
                        match skipSpace s with
                        | [] => none
                        | d :: more =>
                            if d = ',' then
                              (members? fuel depth more).map fun (members, s) =>
                                ((name, item) :: members, s)
                            else if d = closeBrace then some ([(name, item)], more)
                            else none
                | _ => none
          else none

end

end Reader

/-- The document in a text whose arrays and objects nest less than `depth` deep. -/
def read? (depth : Nat) (text : String) : Option Json :=
  let s := text.toList
  match Reader.value? (2 * s.length + 2) depth s with
  | some (json, rest) => if (Reader.skipSpace rest).isEmpty then some json else none
  | none => none

end Json
end ClusterNode
