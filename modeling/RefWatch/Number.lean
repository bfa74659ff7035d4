import RefWatch.Decimal.Shortest

namespace RefWatch

inductive Number
  | whole (n : Int)
  -- The decimal `digits * 10 ^ exponent`, perhaps negative.
  | decimal (negative : Bool) (digits : Nat) (exponent : Int)
  | infinite (negative : Bool)
  | notANumber
  deriving DecidableEq

namespace Number

-- How floating point numbers are written: which are positional, and the least width of an exponent.
structure Layout where
  lowest : Int := -4
  highest : Int := 15
  exponentWidth : Nat := 2

def zeros (n : Nat) : String := String.ofList (List.replicate n '0')

-- `point` digits stand before the point; there are zeros around the digits where it lies outside.
def positional (digits : String) (point : Int) : String :=
  let n : Int := digits.length
  if point ≤ 0 then "0." ++ zeros (-point).toNat ++ digits
  else if n ≤ point then digits ++ zeros (point - n).toNat ++ ".0"
  else (digits.take point.toNat).toString ++ "." ++ (digits.drop point.toNat).toString

def scientific (width : Nat) (digits : String) (power : Int) : String :=
  let rest := (digits.drop 1).toString
  let e := toString power.natAbs
  (digits.take 1).toString ++ (if rest.isEmpty then "" else "." ++ rest) ++
    (if power < 0 then "e-" else "e+") ++ zeros (width - e.length) ++ e

-- The digits without zeros at the end, and the place of the point counted from their start.
def digitsAndPoint (s : Decimal.Short) : String × Int :=
  let all := toString s.digits
  let kept := String.ofList (all.toList.reverse.dropWhile (· == '0')).reverse
  (if kept.isEmpty then "0" else kept, (all.length : Int) + s.exponent)

def floatText (x : Float) (layout : Layout := {}) : String :=
  if x.isNaN then "nan"
  else if x.isInf then if x < 0 then "-inf" else "inf"
  else
    let b := Decimal.Binary.ofFloat x
    let (digits, point) := digitsAndPoint b.shortest
    let power := point - 1
    let body :=
      if layout.lowest ≤ power && power ≤ layout.highest then positional digits point
      else scientific layout.exponentWidth digits power
    if b.negative then "-" ++ body else body

-- Beyond these powers of ten every decimal is infinite, or zero.
def tooLarge : Int := 310

def tooSmall : Int := -330

def decimalToFloat (negative : Bool) (digits : Nat) (exponent : Int) : Float :=
  let power := (Decimal.digitCount digits : Int) + exponent
  let x :=
    if digits = 0 || power < tooSmall then 0.0
    else if power > tooLarge then 1.0 / 0.0
    else Float.ofScientific digits (exponent < 0) exponent.natAbs
  if negative then -x else x

-- A whole number from which on there is no floating point number near enough.
def wholeLimit : Nat := Nat.pow 2 1024 - Nat.pow 2 970

def toFloat : Number → Float
  | whole n => decimalToFloat (n < 0) n.natAbs 0
  | decimal s d e => decimalToFloat s d e
  | infinite s => if s then -1.0 / 0.0 else 1.0 / 0.0
  | notANumber => 0.0 / 0.0

def text : Number → String
  | whole n => toString n
  | x => floatText x.toFloat

-- The floating point number to calculate with; a whole number may be too large to have one.
def float? : Number → Option Float
  | whole n => if n.natAbs < wholeLimit then some (whole n).toFloat else none
  | x => some x.toFloat

def tooLargeText : String := "int too large to convert to float"

def isNegative : Number → Bool
  | whole n => n < 0
  | decimal s d _ => s && d ≠ 0
  | infinite s => s
  | notANumber => false

-- The number, or zero in place of a negative one.
def atLeastZero : Number → Number
  | notANumber => decimal false 0 0
  | n => if n.isNegative then decimal false 0 0 else n

end Number

end RefWatch
