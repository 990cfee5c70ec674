import ClusterNode.Text.PrintableTable

/-!
# Quoted text

A text between double quotes, as diagnostics show it. A backslash stands before a quote or a
backslash, common controls have letters, and any character without a visible form of its own is
written by its code point.
-/

namespace ClusterNode
namespace Text

def quoteChar : Char := Char.ofNat 34

/-- Lower case digits without leading zeros. -/
def hexDigits (n : Nat) : List Char := Nat.toDigits 16 n

def escapeChar (c : Char) : List Char :=
  if c = Char.ofNat 0 then ['\\', '0']
  else if c = '\t' then ['\\', 't']
  else if c = '\r' then ['\\', 'r']
  else if c = '\n' then ['\\', 'n']
  else if c = '\\' then ['\\', '\\']
  else if c = quoteChar then ['\\', quoteChar]
  else if extendsPrevious c || !isPrintable c then
    ['\\', 'u', Char.ofNat 123] ++ hexDigits c.toNat ++ [Char.ofNat 125]
  else [c]

def quoted (s : String) : String :=
  String.ofList ([quoteChar] ++ s.toList.flatMap escapeChar ++ [quoteChar])

/-- Items in brackets, separated by a comma and a space. -/
def bracketed (items : List String) : String :=
  "[" ++ String.intercalate ", " items ++ "]"

end Text
end ClusterNode
