import RefWatch.Decimal.Shortest

namespace RefWatch.Decimal

def roundHalfEven (num den : Nat) : Nat :=
  let q := num / den
  let r := num % den
  if 2 * r > den || (2 * r = den && q % 2 = 1) then q + 1 else q

def zeros (n : Nat) : String := String.ofList (List.replicate n '0')

-- The digits before and behind the point, with `places` of them behind it.
def fixedDigits (num den places : Nat) : String × String :=
  let ds := toString (roundHalfEven (num * Nat.pow 10 places) den)
  let ds := zeros (places + 1 - ds.length) ++ ds
  ((ds.take (ds.length - places)).toString, (ds.drop (ds.length - places)).toString)

-- The first `count` digits, and the power of ten that the first of them stands for.
def significantDigits (num den count : Nat) : String × Int :=
  if num = 0 then (zeros count, 0)
  else
    let power := magnitude num den
    let place := power + 1 - count
    let ds := toString
      (roundHalfEven (num * Nat.pow 10 (-place).toNat) (den * Nat.pow 10 place.toNat))
    if ds.length > count then ((ds.take count).toString, power + 1) else (ds, power)

end RefWatch.Decimal
