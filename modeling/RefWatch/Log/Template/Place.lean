import RefWatch.Decimal.Rounded
import RefWatch.Json.Shown
import RefWatch.Text.Numeral

namespace RefWatch.Log.Template

open Text (quoted escapeChar apostrophe)

inductive Fault
  | tooFew
  | tooMany
  | incomplete
  | incompleteKey
  | noMapping
  | missingKey (name : String)
  | keyOfList
  | unsupported (form : Char) (place : Nat)
  | notReal (form : Char) (kind : String)
  | notWhole (form : Char) (kind : String)
  | notFloat (kind : String)
  | notChar
  | charTooLarge
  | infinite
  | notANumber
  | realTooLarge
  | badCount
  | countTooLarge (type : String)
  | widthTooBig
  | precisionTooBig
  | outOfMemory
  deriving DecidableEq

namespace Fault

def ofForm (form : Char) (text : String) : String := "%" ++ form.toString ++ " format: " ++ text

def message : Fault → String
  | tooFew => "not enough arguments for format string"
  | tooMany => "not all arguments converted during string formatting"
  | incomplete => "incomplete format"
  | incompleteKey => "incomplete format key"
  | noMapping => "format requires a mapping"
  | missingKey n => quoted n
  | keyOfList => "list indices must be integers or slices, not str"
  | unsupported c p =>
    let shown := if 0x1F ≤ c.toNat && c.toNat < 0x7F then c else '?'
    "unsupported format character '" ++ shown.toString ++ "' (0x" ++
      String.ofList (Nat.toDigits 16 c.toNat) ++ ") at index " ++ toString p
  | notReal c k => ofForm c ("a real number is required, not " ++ k)
  | notWhole c k => ofForm c ("an integer is required, not " ++ k)
  | notFloat k => "must be real number, not " ++ k
  | notChar => "%c requires int or char"
  | charTooLarge => "%c arg not in range(0x110000)"
  | infinite => "cannot convert float infinity to integer"
  | notANumber => "cannot convert float NaN to integer"
  | realTooLarge => Number.tooLargeText
  | badCount => "* wants int"
  | countTooLarge type => "Python int too large to convert to C " ++ type
  | widthTooBig => "width too big"
  | precisionTooBig => "precision too big"
  | outOfMemory => ""

end Fault

structure Place where
  flags : List Char := []
  width : Nat := 0
  precision : Option Nat := none
  form : Char
  -- Where the letter of the form stands.
  index : Nat

namespace Place

def has (p : Place) (flag : Char) : Bool := p.flags.contains flag

-- Fills up to the width: with zeros between sign and digits where that is wanted, else with
-- blanks.
def pad (p : Place) (sign body : String) (zeros : Bool) : String :=
  let missing := p.width - (sign.length + body.length)
  if p.has '-' then sign ++ body ++ String.ofList (List.replicate missing ' ')
  else if zeros && p.has '0' then sign ++ Decimal.zeros missing ++ body
  else String.ofList (List.replicate missing ' ') ++ sign ++ body

def textual (p : Place) (s : String) : String :=
  let s :=
    match p.precision with
    | some n => String.ofList (s.toList.take n)
    | none => s
  p.pad "" s false

def signText (p : Place) (negative : Bool) : String :=
  if negative then "-" else if p.has '+' then "+" else if p.has ' ' then " " else ""

def whole (p : Place) (base : Nat) (mark : String) (n : Int) : String :=
  let ds := String.ofList (Nat.toDigits base n.natAbs)
  let ds := Decimal.zeros (p.precision.getD 0 - ds.length) ++ ds
  p.pad (p.signText (n < 0) ++ if p.has '#' then mark else "") ds true

-- A point stands before a fraction, and before none only if that is wanted.
def pointed (p : Place) (before fraction : String) : String :=
  before ++ (if fraction.isEmpty && !p.has '#' then "" else ".") ++ fraction

def scientific (p : Place) (digits : String) (power : Int) : String :=
  let e := toString power.natAbs
  p.pointed (digits.take 1).toString (digits.drop 1).toString ++
    (if power < 0 then "e-" else "e+") ++ Decimal.zeros (2 - e.length) ++ e

def withoutZeros (s : String) : String :=
  String.ofList (s.toList.reverse.dropWhile (· == '0')).reverse

-- As many digits as are significant, without zeros at their end; powers that are small, or too large
-- for the digits, are written out.
def general (p : Place) (num den : Nat) : String :=
  let count := max 1 (p.precision.getD 6)
  let (ds, power) := Decimal.significantDigits num den count
  let trim (s : String) : String := if p.has '#' then s else withoutZeros s
  if power < -4 || count ≤ power then
    p.scientific ((ds.take 1).toString ++ trim (ds.drop 1).toString) power
  else if power < 0 then p.pointed "0" (trim (Decimal.zeros ((-power).toNat - 1) ++ ds))
  else
    p.pointed (ds.take (power.toNat + 1)).toString (trim (ds.drop (power.toNat + 1)).toString)

def finite (p : Place) (num den : Nat) : String :=
  match p.form.toLower with
  | 'e' =>
    let (ds, power) := Decimal.significantDigits num den (p.precision.getD 6 + 1)
    p.scientific ds power
  | 'f' =>
    let (before, fraction) := Decimal.fixedDigits num den (p.precision.getD 6)
    p.pointed before fraction
  | _ => p.general num den

def real (p : Place) (x : Float) : String :=
  let b := Decimal.Binary.ofFloat x
  let body :=
    if x.isNaN then "nan"
    else if x.isInf then "inf"
    else p.finite (b.mantissa * Nat.pow 2 b.exponent.toNat) (Nat.pow 2 (-b.exponent).toNat)
  let body := if p.form.isUpper then body.map Char.toUpper else body
  p.pad (p.signText (b.negative && !x.isNaN)) body true

-- A number without its fraction.
def toWhole (form : Char) : Json → Except Fault Int
  | .bool b => .ok (if b then 1 else 0)
  | .number (.whole n) => .ok n
  | .number x =>
    let f := x.toFloat
    if f.isNaN then .error .notANumber
    else if f.isInf then .error .infinite
    else
      let b := Decimal.Binary.ofFloat f
      let n : Int := (b.mantissa * Nat.pow 2 b.exponent.toNat / Nat.pow 2 (-b.exponent).toNat : Nat)
      .ok (if b.negative then -n else n)
  | j => .error (.notReal form j.kindName)

def onlyWhole (form : Char) : Json → Except Fault Int
  | .bool b => .ok (if b then 1 else 0)
  | .number (.whole n) => .ok n
  | j => .error (.notWhole form j.kindName)

def toReal : Json → Except Fault Float
  | .bool b => .ok (if b then 1.0 else 0.0)
  | .number x =>
    match x.float? with
    | some f => .ok f
    | none => .error .realTooLarge
  | j => .error (.notFloat j.kindName)

def toChar : Json → Except Fault String
  | .text s => if s.length = 1 then .ok s else .error .notChar
  | .bool b => .ok (Char.ofNat (if b then 1 else 0)).toString
  | .number (.whole n) =>
    if 0 ≤ n && n < 0x110000 then .ok (Char.ofNat n.toNat).toString else .error .charTooLarge
  | _ => .error .notChar

-- Escapes what is not ASCII.
def asciiOnly (s : String) : String :=
  String.ofList (s.toList.flatMap fun c =>
    if c.toNat < 0x80 then [c] else escapeChar (fun _ => false) apostrophe c)

def write (p : Place) (v : Json) : Except Fault String :=
  match p.form with
  | 's' => .ok (p.textual v.plain)
  | 'r' => .ok (p.textual v.shown)
  | 'a' => .ok (p.textual (asciiOnly v.shown))
  | 'd' | 'i' | 'u' => (toWhole p.form v).map (p.whole 10 "")
  | 'x' => (onlyWhole p.form v).map (p.whole 16 "0x")
  | 'X' => (onlyWhole p.form v).map fun n => (p.whole 16 "0x" n).map Char.toUpper
  | 'o' => (onlyWhole p.form v).map (p.whole 8 "0o")
  | 'e' | 'E' | 'f' | 'F' | 'g' | 'G' => (toReal v).map p.real
  | 'c' => (toChar v).map p.textual
  | c => .error (.unsupported c p.index)

end Place

end RefWatch.Log.Template
