import RefWatch.Json

namespace RefWatch

-- A truth value counts as a number here, as one or zero, but has its own text.
structure Delay where
  seconds : Number
  text : String := seconds.text
  deriving DecidableEq

namespace Delay

def ofNumber (n : Number) : Delay := { seconds := n }

def ofBool (b : Bool) : Delay where
  seconds := .whole (if b then 1 else 0)
  text := if b then "True" else "False"

def ofJson? : Json → Option Delay
  | .number n => some (ofNumber n)
  | .bool b => some (ofBool b)
  | _ => none

def isNegative (d : Delay) : Bool := d.seconds.isNegative

end Delay

end RefWatch
