namespace RefWatch.Decimal

-- `digits * 10 ^ exponent`.
structure Short where
  digits : Nat
  exponent : Int
  deriving DecidableEq

-- A positive number as a quotient, with the ends of its interval over the same denominator.
structure Interval where
  low : Nat
  value : Nat
  high : Nat
  den : Nat
  closed : Bool

-- The interval of `m * 2 ^ q`: halfway to its neighbours, with the ends if `m` is even. If `close`, the lower
-- neighbour is half as far away as the upper.
def intervalOf (m : Nat) (q : Int) (close : Bool) : Interval :=
  -- in quarters of the last binary place
  let up := Nat.pow 2 q.toNat
  let den := 4 * Nat.pow 2 (-q).toNat
  { low := (4 * m - if close then 1 else 2) * up
    value := 4 * m * up
    high := (4 * m + 2) * up
    den
    closed := m % 2 = 0 }

def digitCount (n : Nat) : Nat := (Nat.toDigits 10 n).length

-- The power of ten below a quotient: `10 ^ e ≤ num / den < 10 ^ (e + 1)`.
def magnitude (num den : Nat) : Int :=
  if den ≤ num then (digitCount (num / den) : Int) - 1
  else
    let j := digitCount (den / num)
    if den ≤ num * Nat.pow 10 (j - 1) then -((j : Int) - 1) else -(j : Int)

namespace Interval

def holds (i : Interval) (s : Short) : Bool :=
  let lhs := s.digits * Nat.pow 10 s.exponent.toNat * i.den
  let scale := Nat.pow 10 (-s.exponent).toNat
  if i.closed then i.low * scale ≤ lhs && lhs ≤ i.high * scale
  else i.low * scale < lhs && lhs < i.high * scale

-- Distance from the value, scaled by a factor that depends on the exponent alone.
def distance (i : Interval) (s : Short) : Nat :=
  let lhs := s.digits * Nat.pow 10 s.exponent.toNat * i.den
  let value := i.value * Nat.pow 10 (-s.exponent).toNat
  (lhs - value) + (value - lhs)

-- The decimal of a given last place just below the value.
def floorAt (i : Interval) (exponent : Int) : Short :=
  ⟨i.value * Nat.pow 10 (-exponent).toNat / (i.den * Nat.pow 10 exponent.toNat), exponent⟩

def above (s : Short) : Short := { s with digits := s.digits + 1 }

-- The nearer of two neighbouring decimals; of two that are as near, the one with an even digit.
def nearer (i : Interval) (s t : Short) : Short :=
  if i.distance s < i.distance t then s
  else if i.distance t < i.distance s then t
  else if s.digits % 2 = 0 then s else t

def hitAt? (i : Interval) (exponent : Int) : Option Short :=
  let s := i.floorAt exponent
  match i.holds s, i.holds (above s) with
  | true, true => some (i.nearer s (above s))
  | true, false => some s
  | false, true => some (above s)
  | false, false => none

-- Tries the last places from `exponent` downwards.
def firstHit (i : Interval) : Nat → Int → Short
  | 0, exponent => i.floorAt exponent
  | fuel + 1, exponent =>
    match i.hitAt? exponent with
    | some s => s
    | none => firstHit i fuel (exponent - 1)

def shortest (i : Interval) : Short := i.firstHit 17 (magnitude i.value i.den)

end Interval

-- Sign, mantissa and binary exponent of a finite number, and whether its lower neighbour is close.
structure Binary where
  negative : Bool
  mantissa : Nat
  exponent : Int
  close : Bool

def Binary.ofFloat (x : Float) : Binary :=
  let bits : Nat := x.toBits.toNat
  let fraction : Nat := bits % Nat.pow 2 52
  let biased : Nat := bits / Nat.pow 2 52 % Nat.pow 2 11
  { negative := bits / Nat.pow 2 63 = 1
    mantissa := if biased = 0 then fraction else Nat.pow 2 52 + fraction
    exponent := (if biased = 0 then 1 else (biased : Int)) - 1075
    close := fraction = 0 && biased > 1 }

def Binary.shortest (b : Binary) : Short :=
  if b.mantissa = 0 then ⟨0, 0⟩
  else (intervalOf b.mantissa b.exponent b.close).shortest

end RefWatch.Decimal
