/-!
# Time

Moments and durations are whole nanoseconds, which is the finest step of a clock.
-/

namespace ClusterNode

abbrev Time := Nat

namespace Time

def millis (n : Nat) : Time := n * 1000000

def seconds (n : Nat) : Time := n * 1000000000

/-!
## The text of a duration

A duration is shown in the largest unit of which it has one or more. Zeros at the end of the
fraction are left out, and so is the point before an empty fraction.
-/

def textIn (unit : Time) (name : String) (t : Time) : String :=
  let digits := (toString (unit + t % unit)).toList.drop 1
  let fraction := (digits.reverse.dropWhile fun c => c == '0').reverse
  toString (t / unit) ++ (if fraction.isEmpty then "" else "." ++ String.ofList fraction) ++ name

def toText (t : Time) : String :=
  if seconds 1 ≤ t then textIn (seconds 1) "s" t
  else if millis 1 ≤ t then textIn (millis 1) "ms" t
  else if 1000 ≤ t then textIn 1000 "µs" t
  else textIn 1 "ns" t

end Time
end ClusterNode
