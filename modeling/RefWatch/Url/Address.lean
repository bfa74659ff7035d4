import RefWatch.Text.Numeral
import RefWatch.Text.Split

namespace RefWatch.Url

open Text (fields isAsciiDigit isHexDigit natOfDigits)

def isOctet (s : List Char) : Bool :=
  !s.isEmpty && s.all isAsciiDigit && s.length ≤ 3 && (s == ['0'] || s.head? != some '0') &&
    natOfDigits s ≤ 255

def isDotted (s : List Char) : Bool :=
  let octets := fields '.' s
  octets.length = 4 && octets.all isOctet

def isHexGroup (s : List Char) : Bool := !s.isEmpty && s.length ≤ 4 && s.all isHexDigit

-- Octets in the last place count as two groups.
def withoutOctets? (groups : List (List Char)) : Option (List (List Char)) :=
  match groups.getLast? with
  | some last =>
    if last.contains '.' then
      if isDotted last then some (groups.dropLast ++ [['0'], ['0']]) else none
    else some groups
  | none => none

-- The groups on one side of the gap; an empty group is allowed only as the whole outer side.
def isSide (groups : List (List Char)) : Bool := groups == [[]] || groups.all isHexGroup

def sideLength (groups : List (List Char)) : Nat := if groups == [[]] then 0 else groups.length

-- Splits at the empty groups that are neither the first nor the last.
def gaps (groups : List (List Char)) : List Nat :=
  (List.range groups.length).filter fun i => 0 < i && i + 1 < groups.length && groups[i]? == some []

def isGrouped (s : List Char) : Bool :=
  let groups := fields ':' s
  3 ≤ groups.length &&
    match withoutOctets? groups with
    | none => false
    | some groups =>
      match gaps groups with
      | [] => groups.length = 8 && groups.all isHexGroup
      | [i] =>
        let high := groups.take i
        let low := groups.drop (i + 1)
        isSide high && isSide low && sideLength high + sideLength low ≤ 7
      | _ => false

-- Grouped, and perhaps with the name of a zone after a percent sign.
def isZoned (s : List Char) : Bool :=
  match Text.cutFirst '%' s with
  | (address, none) => isGrouped address
  | (address, some zone) => !zone.isEmpty && !zone.contains '%' && isGrouped address

end RefWatch.Url
