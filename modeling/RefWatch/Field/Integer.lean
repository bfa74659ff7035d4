import RefWatch.Field

namespace RefWatch.Field

open Checked

-- Drops the zeros in front, perhaps with underscores among them; a zero before the point or the end
-- stays. A minus sign may follow the zeros as it may precede them.
def dropZeros : List Char → Option (List Char)
  | '0' :: r =>
    match r.dropWhile fun c => c == '0' || c == '_' with
    | [] => some (('0' :: r).drop r.length)
    | '.' :: _ =>
      let kept := r.takeWhile fun c => c == '0' || c == '_'
      some (('0' :: r).drop kept.length)
    | c :: cs => if Text.isAsciiDigit c || c == '-' then some (c :: cs) else none
  | c :: cs => if Text.isAsciiDigit c || c == '-' then some (c :: cs) else none
  | [] => none

-- A fraction of zeros only is dropped.
def dropZeroFraction (s : List Char) : List Char :=
  match s.span (· ≠ '.') with
  | (whole, '.' :: zeros) => if zeros ≠ [] && zeros.all (· == '0') then whole else s
  | _ => s

-- Drops underscores, unless two stand together or one stands at an end.
def dropUnderscores (s : List Char) : List Char :=
  let doubled := (s.zip s.tail).any fun c => c.1 == '_' && c.2 == '_'
  if s.head? = some '_' || s.getLast? = some '_' || doubled then s else s.filter (· != '_')

def digitsToNat? (s : List Char) : Option Nat :=
  if s.all Text.isAsciiDigit && (s.length = 1 || (s.head?.any (· != '0'))) then
    some (Text.natOfDigits s)
  else none

def signedToInt? : List Char → Option Int
  | '-' :: r => (digitsToNat? r).map fun n => -(n : Int)
  | s => (digitsToNat? s).map Int.ofNat

-- A numeral without blanks, zeros in front, a fraction of zeros and underscores.
def cleanNumeral? (s : List Char) : Option (List Char) := do
  let kept ←
    match Text.trim Text.isSpace s with
    | '+' :: '-' :: _ => none
    | '+' :: r => dropZeros r
    | '-' :: r => (dropZeros r).map ('-' :: ·)
    | r => dropZeros r
  return dropUnderscores (dropZeroFraction kept)

def isTooLong (s : List Char) : Bool :=
  let digits := if s.head? = some '-' then s.tail else s
  digits.head? != some '0' && (digits.takeWhile Text.isAsciiDigit).length > Text.longestNumeral

def intOfWord (s : List Char) : Checked Int :=
  match cleanNumeral? s with
  | none => flaw .unclearInteger
  | some t =>
    if isTooLong t then flaw .tooManyDigits
    else
      match signedToInt? t with
      | some n => ok n
      | none => flaw .unclearInteger

def intOfFloat (x : Float) : Checked Int :=
  if x.isNaN || x.isInf then flaw .notFinite
  else if x.floor != x then flaw .fractional
  else if x.abs < wordLimit.toFloat then
    ok (if x < 0 then -((-x).toUInt64.toNat : Int) else (x.toUInt64.toNat : Int))
  else flaw .tooManyDigits

-- Whole numbers, and what stands for one without loss: truth values, decimals and numerals.
def integer : Read Int
  | .bool b => ok (if b then 1 else 0)
  | .number (.whole n) => ok n
  | .number x => intOfFloat x.toFloat
  | .text s => intOfWord s.toList
  | _ => flaw .notInteger

end RefWatch.Field
