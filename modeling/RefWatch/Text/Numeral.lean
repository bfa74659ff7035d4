import RefWatch.Text.Blank
import RefWatch.Text.Word

namespace RefWatch.Text

-- The value of a digit in the run of ten that it stands in.
def decimalValue? (c : Char) : Option Nat :=
  if isAsciiDigit c then some (c.toNat - 0x30)
  else (decimalRuns.find? fun r => r.1 ≤ c.toNat && c.toNat ≤ r.2).map fun r => (c.toNat - r.1) % 10

def digitValue (c : Char) : Nat := (decimalValue? c).getD 0

def natOfDigits (s : List Char) : Nat := s.foldl (fun n c => 10 * n + digitValue c) 0

def hexValue (c : Char) : Nat :=
  if isAsciiDigit c then c.toNat - 0x30
  else if 'a' ≤ c && c ≤ 'f' then c.toNat - 0x57
  else c.toNat - 0x37

def isHexDigit (c : Char) : Bool :=
  isAsciiDigit c || ('a' ≤ c && c ≤ 'f') || ('A' ≤ c && c ≤ 'F')

def natOfHex (s : List Char) : Nat := s.foldl (fun n c => 16 * n + hexValue c) 0

def isOctalDigit (c : Char) : Bool := '0' ≤ c && c ≤ '7'

def natOfOctal (s : List Char) : Nat := s.foldl (fun n c => 8 * n + hexValue c) 0

-- Drops underscores that stand singly between two digits.
def joinDigits? (isDigit : Char → Bool) : List Char → Option (List Char)
  | [] => none
  | [c] => if isDigit c then some [c] else none
  | c :: d :: r =>
    if isDigit c then
      if d == '_' then (joinDigits? isDigit r).map (c :: ·)
      else (joinDigits? isDigit (d :: r)).map (c :: ·)
    else none

def longestNumeral : Nat := 4300

-- A lenient numeral; one of more than `longestNumeral` digits is not read.
def intOfText? (s : List Char) : Option Int :=
  let t := trim isBlank s
  let (negative, digits) :=
    match t with
    | '-' :: r => (true, r)
    | '+' :: r => (false, r)
    | _ => (false, t)
  match joinDigits? (fun c => (decimalValue? c).isSome) digits with
  | none => none
  | some ds =>
    if ds.length > longestNumeral then none
    else
      let n : Int := natOfDigits ds
      some (if negative then -n else n)

end RefWatch.Text
