namespace RefWatch

-- The offset is a fixed one. A clock whose offset depends on the day may show a reading twice, or leave one
-- out; a time that such a clock shows stands here with the offset that it has.
structure Timestamp where
  year : Nat
  month : Nat
  day : Nat
  hour : Nat := 0
  minute : Nat := 0
  second : Nat := 0
  micros : Nat := 0
  -- Microseconds east of UTC.
  offset : Option Int := none
  deriving DecidableEq

namespace Timestamp

def isLeap (year : Nat) : Bool := year % 4 = 0 && (year % 100 ≠ 0 || year % 400 = 0)

def daysIn (year month : Nat) : Nat :=
  if month = 2 then if isLeap year then 29 else 28
  else if month = 4 || month = 6 || month = 9 || month = 11 then 30
  else 31

-- Days are counted from 1 March of the year 0, so that a leap day ends its year.
def dayNumber (year month day : Nat) : Nat :=
  let y := if month ≤ 2 then year - 1 else year
  let m := if month ≤ 2 then month + 9 else month - 3
  365 * y + y / 4 - y / 100 + y / 400 + (153 * m + 2) / 5 + (day - 1)

def epochDay : Nat := 719468

theorem dayNumber_epoch : dayNumber 1970 1 1 = epochDay := by decide

-- Year, month and day of a day number.
def dateOf (n : Nat) : Nat × Nat × Nat :=
  let era := n / 146097
  let doe := n % 146097
  let yoe := (doe - doe / 1460 + doe / 36524 - doe / 146096) / 365
  let doy := doe - (365 * yoe + yoe / 4 - yoe / 100)
  let m := (5 * doy + 2) / 153
  let day := doy - (153 * m + 2) / 5 + 1
  let month := if m < 10 then m + 3 else m - 9
  (yoe + 400 * era + (if month ≤ 2 then 1 else 0), month, day)

def microsPerSecond : Int := 1000000

def microsPerMinute : Int := 60000000

def microsPerDay : Nat := 86400000000

-- Microseconds since the start of 1970, read as if the timestamp were in UTC.
def wall (t : Timestamp) : Int :=
  let days : Int := (dayNumber t.year t.month t.day : Int) - epochDay
  let seconds : Int := days * 86400 + t.hour * 3600 + t.minute * 60 + t.second
  seconds * microsPerSecond + t.micros

-- Microseconds since the start of 1970 in UTC; a missing offset counts as none.
def instant (t : Timestamp) : Int := t.wall - t.offset.getD 0

def isAware (t : Timestamp) : Bool := t.offset.isSome

-- The timestamp that reads `wall` on a clock with an offset; before the year 1 it is that year's
-- start.
def ofWall (wall : Int) (offset : Option Int) : Timestamp :=
  let total := (wall + (epochDay : Int) * microsPerDay).toNat
  let (year, month, day) := dateOf (total / microsPerDay)
  let rest := total % microsPerDay
  { year, month, day
    hour := rest / 3600000000
    minute := rest / 60000000 % 60
    second := rest / 1000000 % 60
    micros := rest % 1000000
    offset }

def ofInstant (instant : Int) : Timestamp := ofWall instant (some 0)

-- The same point in time, as far as both tell: without an offset a timestamp is none with one.
def same (s t : Timestamp) : Bool := s.isAware == t.isAware && s.instant == t.instant

-- Without an offset a timestamp counts as UTC.
def assumeUtc (t : Timestamp) : Timestamp := { t with offset := some (t.offset.getD 0) }

def padded (width n : Nat) : String :=
  let ds := toString n
  String.ofList (List.replicate (width - ds.length) '0') ++ ds

def fractionText (micros : Nat) : String := if micros = 0 then "" else "." ++ padded 6 micros

-- Hours and minutes; seconds only if there are any beyond the minutes.
def offsetText (offset : Int) : String :=
  let micros := offset.natAbs
  (if offset < 0 then "-" else "+") ++ padded 2 (micros / 3600000000) ++ ":" ++
    padded 2 (micros / 60000000 % 60) ++
    if micros % 60000000 = 0 then ""
    else ":" ++ padded 2 (micros / 1000000 % 60) ++ fractionText (micros % 1000000)

-- Date and time with a `T` between them, microseconds only if there are any, and the offset.
def text (t : Timestamp) : String :=
  padded 4 t.year ++ "-" ++ padded 2 t.month ++ "-" ++ padded 2 t.day ++ "T" ++
    padded 2 t.hour ++ ":" ++ padded 2 t.minute ++ ":" ++ padded 2 t.second ++
    fractionText t.micros ++ (t.offset.map offsetText).getD ""

theorem same_refl (t : Timestamp) : same t t := by simp [same]

theorem same_comm (s t : Timestamp) : same s t = same t s := by
  simp only [same, Bool.beq_comm]

theorem same_trans {s t u : Timestamp} (h : same s t) (h' : same t u) : same s u := by
  simp_all [same]

theorem isAware_assumeUtc (t : Timestamp) : t.assumeUtc.isAware := rfl

theorem instant_assumeUtc (t : Timestamp) : t.assumeUtc.instant = t.instant := rfl

end Timestamp

end RefWatch
