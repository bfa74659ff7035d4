import RefWatch.Json
import RefWatch.Text.Numeral
import RefWatch.Timestamp

namespace RefWatch.Timestamp

open Text (isAsciiDigit natOfDigits)

inductive Flaw
  | tooShort
  | badYear
  | badMonth
  | badDay
  | badSeparator
  | monthOutOfRange
  | dayOutOfRange
  | tooLong
  | beforeYearZero
  | after9999
  | notANumber
  | yearZero
  deriving DecidableEq

def Flaw.message : Flaw → String
  | tooShort => "input is too short"
  | badYear => "invalid character in year"
  | badMonth => "invalid character in month"
  | badDay => "invalid character in day"
  | badSeparator => "invalid date separator, expected `-`"
  | monthOutOfRange => "month value is outside expected range of 1-12"
  | dayOutOfRange => "day value is outside expected range"
  | tooLong => "unexpected extra characters at the end of the input"
  | beforeYearZero => "dates before 0000 are not supported as unix timestamps"
  | after9999 => "dates after 9999 are not supported as unix timestamps"
  | notANumber => "NaN values not permitted"
  | yearZero => "year 0 is out of range"

inductive Fault
  | wrongType
  -- No timestamp, when read as one.
  | unreadable (flaw : Flaw)
  -- No timestamp, and no date either.
  | noDate (flaw : Flaw)
  deriving DecidableEq

def Fault.message : Fault → String
  | wrongType => "Input should be a valid datetime"
  | unreadable f => "Input should be a valid datetime, " ++ f.message
  | noDate f => "Input should be a valid datetime or date, " ++ f.message

def digits? (n : Nat) (s : List Char) : Option (Nat × List Char) :=
  let ds := s.take n
  if ds.length = n && ds.all isAsciiDigit then some (natOfDigits ds, s.drop n) else none

def dash (s : List Char) : Except Flaw (List Char) :=
  match s with
  | '-' :: rest => .ok rest
  | _ => .error .badSeparator

def orElse (flaw : Flaw) : Option α → Except Flaw α
  | some a => .ok a
  | none => .error flaw

-- A date off the front of a text.
def readDate (s : List Char) : Except Flaw (Timestamp × List Char) := do
  if (String.ofList s).utf8ByteSize < 10 then throw .tooShort
  let (year, s) ← orElse .badYear (digits? 4 s)
  let s ← dash s
  let (month, s) ← orElse .badMonth (digits? 2 s)
  let s ← dash s
  let (day, s) ← orElse .badDay (digits? 2 s)
  if month < 1 || month > 12 then throw .monthOutOfRange
  if day < 1 || day > daysIn year month then throw .dayOutOfRange
  return ({ year, month, day }, s)

-- Seconds and their fraction, if there are any.
def seconds? (s : List Char) : Option (Nat × Nat × List Char) :=
  match s with
  | ':' :: s => do
    let (second, s) ← digits? 2 s
    if second > 59 then none
    else
      match s with
      | c :: rest =>
        if c = '.' || c = ',' then
          match rest.takeWhile isAsciiDigit with
          | [] => none
          | ds =>
            let six := (ds ++ List.replicate 6 '0').take 6
            some (second, natOfDigits six, rest.dropWhile isAsciiDigit)
        else some (second, 0, s)
      | [] => some (second, 0, [])
  | _ => some (0, 0, s)

def minusSign : Char := Char.ofNat 0x2212

def signedOffset? (negative : Bool) (s : List Char) : Option Int := do
  let (hours, s) ← digits? 2 s
  let s := if s.head? = some ':' then s.drop 1 else s
  let (minutes, s) ← digits? 2 s
  let total : Int := hours * 60 + minutes
  if minutes > 59 || total ≥ 1440 || !s.isEmpty then none
  else some ((if negative then -total else total) * microsPerMinute)

-- The offset at the end of a text; none inside if there is nothing.
def offset? (s : List Char) : Option (Option Int) :=
  match s with
  | [] => some none
  | ['Z'] | ['z'] => some (some 0)
  | c :: s =>
    if c = '+' then (signedOffset? false s).map some
    else if c = '-' || c = minusSign then (signedOffset? true s).map some
    else none

def clock? (date : Timestamp) (s : List Char) : Option Timestamp := do
  let (hour, s) ← digits? 2 s
  let s ← if s.head? = some ':' then some (s.drop 1) else none
  let (minute, s) ← digits? 2 s
  let (second, micros, s) ← seconds? s
  let offset ← offset? s
  if hour > 23 || minute > 59 then none
  else some { date with hour, minute, second, micros, offset }

-- Date, separator and time, over the whole text.
def full? (s : List Char) : Option Timestamp :=
  match readDate s with
  | .ok (date, c :: s) =>
    if c = 'T' || c = 't' || c = ' ' || c = '_' then clock? date s else none
  | _ => none

def largestSeconds : Int := 20000000000

def earliestSecond : Int := -62167219200

def latestSecond : Int := 253402300799

-- From a count of seconds and microseconds since the start of 1970.
def ofMicros (total : Int) : Except Flaw Timestamp :=
  let second := Int.fdiv total microsPerSecond
  if second < earliestSecond then .error .beforeYearZero
  else if second > latestSecond then .error .after9999
  else .ok (ofInstant total)

-- From a count of seconds or milliseconds.
def ofCount (count : Int) : Except Flaw Timestamp :=
  ofMicros (if count.natAbs ≤ largestSeconds.natAbs then count * microsPerSecond else count * 1000)

def largestCount : Int := 9223372036854775808

def floatToInt (x : Float) : Int :=
  if x ≥ 9.3e18 then largestCount - 1 else if x ≤ -9.3e18 then -largestCount else x.toInt64.toInt

-- From a fractional count: its part beyond the second before it is rounded to microseconds.
def ofFloat (x : Float) : Except Flaw Timestamp :=
  if x.isNaN then .error .notANumber
  else
    let seconds := if x.abs > Float.ofInt largestSeconds then x / 1000.0 else x
    let whole := seconds.floor
    let fraction := if x.isInf then 0.0 else seconds - whole
    ofMicros (floatToInt whole * microsPerSecond + floatToInt (fraction * 1000000.0).round)

def ofNumber : Number → Except Flaw Timestamp
  | .whole n => if n.natAbs < largestCount.natAbs then ofCount n else ofFloat (Number.whole n).toFloat
  | x => ofFloat x.toFloat

def exponent? (s : List Char) : Option Int :=
  let (negative, ds) :=
    match s with
    | '-' :: r => (true, r)
    | '+' :: r => (false, r)
    | _ => (false, s)
  let n : Int := natOfDigits ds
  if ds ≠ [] && ds.all isAsciiDigit then some (if negative then -n else n) else none

-- A plain number as text: digits, perhaps with a sign, a point and an exponent after the point.
def numberOfText? (s : List Char) : Option Number :=
  let (negative, s) :=
    match s with
    | '-' :: r => (true, r)
    | '+' :: r => (false, r)
    | _ => (false, s)
  let whole := s.takeWhile isAsciiDigit
  match s.dropWhile isAsciiDigit with
  | [] =>
    let n : Int := natOfDigits whole
    if whole ≠ [] && n < largestCount then some (.whole (if negative then -n else n)) else none
  | '.' :: r =>
    let decimals := r.takeWhile isAsciiDigit
    let mantissa := natOfDigits (whole ++ decimals)
    if whole ++ decimals = [] then none
    else
      match r.dropWhile isAsciiDigit with
      | [] => some (.decimal negative mantissa (-decimals.length))
      | c :: r =>
        if c = 'e' || c = 'E' then
          (exponent? r).map fun e => .decimal negative mantissa (e - decimals.length)
        else none
  | _ => none

def dateOnly (s : List Char) : Except Flaw Timestamp := do
  match ← readDate s with
  | (date, []) => return date
  | _ => throw .tooLong

-- A text is a date with a time, a count, or a date alone.
def ofText (s : List Char) : Except Flaw Timestamp :=
  match full? s, numberOfText? s with
  | some t, _ => .ok t
  | none, some (.whole n) => ofNumber (.whole n)
  | none, some x =>
    match ofNumber x with
    | .ok t => .ok t
    | .error _ => dateOnly s
  | none, none => dateOnly s

def ofNumberOrText : Json → Except Fault Timestamp
  | .text s => (ofText s.toList).mapError .noDate
  | .number n =>
    if n.float?.isNone then .error .wrongType else (ofNumber n).mapError .unreadable
  | _ => .error .wrongType

-- Years are counted from 1.
def ofJson (j : Json) : Except Fault Timestamp := do
  let t ← ofNumberOrText j
  if t.year = 0 then throw (.unreadable .yearZero)
  return t

end RefWatch.Timestamp
