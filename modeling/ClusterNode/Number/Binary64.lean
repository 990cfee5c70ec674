import ClusterNode.Number.Decimal

/-!
# Binary floating-point numbers

The 64-bit binary floating-point numbers as values: a sign, a whole significand and a power of two.
Every quotient of natural numbers rounds to the nearest of them, a half to the even significand, and
each of them has a shortest decimal text that rounds back to it.
-/

namespace ClusterNode
namespace Number

/-- `finite negative m e` stands for `m * 2 ^ e`, with `m < 2 ^ 53` and `-1074 ≤ e`. -/
inductive Binary64
  | nan
  | infinite (negative : Bool)
  | finite (negative : Bool) (significand : Nat) (exponent : Int)
  deriving DecidableEq, Repr

namespace Binary64

def zero (negative : Bool) : Binary64 := .finite negative 0 (-1074)

def negate : Binary64 -> Binary64
  | nan => nan
  | infinite negative => infinite !negative
  | finite negative m e => finite (!negative) m e

def isZero : Binary64 -> Bool
  | finite _ 0 _ => true
  | _ => false

/-- `num / den` as numerator and denominator after division by `2 ^ e`. -/
def scaled (num den : Nat) (e : Int) : Nat × Nat :=
  match e with
  | .ofNat k => (num, den * Nat.pow 2 k)
  | .negSucc k => (num * Nat.pow 2 (k + 1), den)

/-- The nearest whole number to `num / den`, a half going to the even one. -/
def nearestEven (num den : Nat) : Nat :=
  let q := num / den
  let rest := num % den
  if 2 * rest < den then q
  else if den < 2 * rest then q + 1
  else if q % 2 = 0 then q else q + 1

/-- The exponent at which the significand of `num / den` has 53 bits, but at least -1074. -/
def exponentFor (num den : Nat) : Int :=
  let guess : Int := Int.ofNat num.log2 - Int.ofNat den.log2 - 52
  let (n, d) := scaled num den guess
  max (-1074) (if n / d < Nat.pow 2 52 then guess - 1 else guess)

def ofRatio (negative : Bool) (num den : Nat) : Binary64 :=
  if num = 0 then zero negative
  else
    let e := exponentFor num den
    let (n, d) := scaled num den e
    let m := nearestEven n d
    let (m, e) := if m = Nat.pow 2 53 then (Nat.pow 2 52, e + 1) else (m, e)
    if 971 < e then infinite negative else finite negative m e

def ofDecimal (negative : Bool) (digits : Nat) (exponent : Int) : Binary64 :=
  if digits = 0 then zero negative
  else
    let magnitude : Int := Int.ofNat (Nat.toDigits 10 digits).length + exponent
    if 310 < magnitude then infinite negative
    else if magnitude < -330 then zero negative
    else
      match exponent with
      | .ofNat k => ofRatio negative (digits * Nat.pow 10 k) 1
      | .negSucc k => ofRatio negative digits (Nat.pow 10 (k + 1))

def ratio (m : Nat) (e : Int) : Nat × Nat :=
  match e with
  | .ofNat k => (m * Nat.pow 2 k, 1)
  | .negSucc k => (m, Nat.pow 2 (k + 1))

def isNegative : Binary64 -> Bool
  | nan => false
  | infinite negative => negative
  | finite negative _ _ => negative

def multiply (x y : Binary64) : Binary64 :=
  let negative := x.isNegative != y.isNegative
  match x, y with
  | nan, _ => nan
  | _, nan => nan
  | infinite _, y => if y.isZero then nan else infinite negative
  | x, infinite _ => if x.isZero then nan else infinite negative
  | finite _ m e, finite _ m' e' =>
      let (n, d) := ratio m e
      let (n', d') := ratio m' e'
      ofRatio negative (n * n') (d * d')

def divide (x y : Binary64) : Binary64 :=
  match x, y with
  | finite negative m e, finite _ m' e' =>
      let (n, d) := ratio m e
      let (n', d') := ratio m' e'
      ofRatio negative (n * d') (d * n')
  | infinite negative, finite _ _ _ => infinite negative
  | infinite _, infinite _ => nan
  | finite negative _ _, infinite _ => zero negative
  | nan, _ => nan
  | _, nan => nan

/-- The nearest whole number, a half going away from zero, kept between 0 and `bound`. -/
def toNatClamped (bound : Nat) : Binary64 -> Nat
  | nan => 0
  | infinite negative => if negative then 0 else bound
  | finite negative m e =>
      if negative then 0
      else
        let (n, d) := ratio m e
        min bound ((2 * n + d) / (2 * d))

/-!
## Shortest decimal text

A decimal `d * 10 ^ k` stands for a number when it lies between the midpoints to its two neighbours,
the midpoints included when the significand is even. Among the grids `10 ^ k` the coarsest that has
such a point wins, and on it the nearest point, the upper one of two.
-/

structure Interval where
  low : Nat
  value : Nat
  high : Nat
  denominator : Nat
  closed : Bool
  deriving Repr

def interval (m : Nat) (e : Int) : Interval :=
  let (num, den) := ratio 1 e
  let narrow := decide (m = Nat.pow 2 52) && decide (-1074 < e)
  { low := if narrow then (4 * m - 1) * num else (4 * m - 2) * num
    value := 4 * m * num
    high := (4 * m + 2) * num
    denominator := 4 * den
    closed := m % 2 == 0 }

def Interval.holds (i : Interval) (num den : Nat) : Bool :=
  let x := num * i.denominator
  if i.closed then i.low * den ≤ x && x ≤ i.high * den
  else i.low * den < x && x < i.high * den

/-- The point of the grid `10 ^ k` that stands for the number, if the grid has one. -/
def Interval.onGrid (i : Interval) (k : Int) : Option Nat :=
  let (unit, part) : Nat × Nat :=
    match k with
    | .ofNat k => (Nat.pow 10 k, 1)
    | .negSucc k => (1, Nat.pow 10 (k + 1))
  let below := i.value * part / (i.denominator * unit)
  let lower := i.holds (below * unit) part
  let upper := i.holds ((below + 1) * unit) part
  let rest := i.value * part % (i.denominator * unit)
  if lower && upper then
    some (if 2 * rest < i.denominator * unit then below else below + 1)
  else if lower then some below
  else if upper then some (below + 1)
  else none

/-- Tries `fuel` grids, each ten times finer than the one before. -/
def Interval.search (i : Interval) : Nat -> Int -> Nat × Int
  | 0, k => (0, k)
  | fuel + 1, k =>
      match i.onGrid k with
      | some d => (d, k)
      | none => Interval.search i fuel (k - 1)

/-- The digits and the power of ten of the shortest decimal. -/
def shortest (m : Nat) (e : Int) : Nat × Int :=
  let magnitude : Int := Int.ofNat m.log2 + e
  (interval m e).search 24 (magnitude * 30103 / 100000 + 2)

def dropTrailingZeros : Nat -> Nat -> Int -> Nat × Int
  | 0, d, k => (d, k)
  | fuel + 1, d, k =>
      if d % 10 = 0 && d != 0 then dropTrailingZeros fuel (d / 10) (k + 1) else (d, k)

def positional (d : Nat) (k : Int) : List Char :=
  let digits := Nat.toDigits 10 d
  match k with
  | .ofNat k => digits ++ List.replicate k '0'
  | .negSucc k =>
      let places := k + 1
      if places < digits.length then
        digits.take (digits.length - places) ++ '.' :: digits.drop (digits.length - places)
      else ['0', '.'] ++ List.replicate (places - digits.length) '0' ++ digits

def magnitudeText (m : Nat) (e : Int) : String :=
  if m = 0 then "0"
  else
    let (d, k) := shortest m e
    let (d, k) := dropTrailingZeros 24 d k
    String.ofList (positional d k)

/-- The fewest digits that read back, without an exponent. -/
def toText : Binary64 -> String
  | nan => "NaN"
  | infinite negative => if negative then "-inf" else "inf"
  | finite negative m e => (if negative then "-" else "") ++ magnitudeText m e

/-!
## Reading a decimal text

An optional sign, then the words for infinity and not-a-number in any case, or digits with at most
one point and at least one digit, and an optional exponent.
-/

def splitSign : List Char -> Bool × List Char
  | '-' :: rest => (true, rest)
  | '+' :: rest => (false, rest)
  | s => (false, s)

def digitValue (s : List Char) : Nat := (readDigits 0 s).getD 0

def exponent? : List Char -> Option Int
  | [] => some 0
  | c :: rest =>
      if c = 'e' ∨ c = 'E' then
        let (negative, digits) := splitSign rest
        (natural? digits).map fun n => if negative then -Int.ofNat n else Int.ofNat n
      else none

def lowerAscii (c : Char) : Char :=
  if 'A' ≤ c ∧ c ≤ 'Z' then Char.ofNat (c.toNat + 32) else c

def isInfinityWord (word : List Char) : Bool :=
  word == ['i', 'n', 'f'] || word == ['i', 'n', 'f', 'i', 'n', 'i', 't', 'y']

def ofMagnitude? (negative : Bool) (s : List Char) : Option Binary64 :=
  let word := s.map lowerAscii
  if isInfinityWord word then some (infinite negative)
  else if word == ['n', 'a', 'n'] then some nan
  else
    let whole := s.takeWhile isDigit
    let rest := s.dropWhile isDigit
    let (fraction, rest) :=
      match rest with
      | '.' :: rest => (rest.takeWhile isDigit, rest.dropWhile isDigit)
      | rest => ([], rest)
    if whole.isEmpty && fraction.isEmpty then none
    else
      (exponent? rest).map fun e =>
        ofDecimal negative (digitValue (whole ++ fraction)) (e - Int.ofNat fraction.length)

def ofText? (s : List Char) : Option Binary64 :=
  let (negative, magnitude) := splitSign s
  ofMagnitude? negative magnitude

end Binary64
end Number
end ClusterNode
