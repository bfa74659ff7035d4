import RefWatch.Pattern.CaseFold
import RefWatch.Pattern.Node
import RefWatch.Text.Blank
import RefWatch.Text.Word

namespace RefWatch.Pattern

open Text (isAsciiDigit isAsciiAlphanumeric isBlank isDecimal)

def isWordChar (ascii : Bool) (c : Char) : Bool :=
  if ascii then isAsciiAlphanumeric c || c == '_' else Text.isWord c

def isAsciiSpace (c : Char) : Bool := c == ' ' || (0x09 ≤ c.toNat && c.toNat ≤ 0x0D)

def Category.has (ascii : Bool) (c : Char) : Category → Bool
  | digit => if ascii then isAsciiDigit c else isDecimal c
  | space => if ascii then isAsciiSpace c else isBlank c
  | word => isWordChar ascii c

namespace SetItem

def has (ascii : Bool) (c : Char) : SetItem → Bool
  | char n => c.toNat == n
  | range lo hi => lo ≤ c.toNat && c.toNat ≤ hi
  | category k negated => k.has ascii c != negated

def lastBasic : Nat := 0xFFFF

def hasCase (ascii : Bool) : SetItem → Bool
  | char n => n > lastBasic || if ascii then isAsciiCased n else isCasedCode n
  | range lo hi =>
    hi > lastBasic ||
      if ascii then (lo ≤ 0x5A && 0x41 ≤ hi) || (lo ≤ 0x7A && 0x61 ≤ hi) else anyCased lo hi
  | category .. => false

-- Membership of a character that has been lowered. A single character beyond the basic plane is
-- compared as it stands; a range that ends there is also tried with the upper case form.
def hasLowered (ascii : Bool) (c : Char) : SetItem → Bool
  | char n =>
    if n > lastBasic then c.toNat == n
    else if ascii then c.toNat == asciiLowerCode n
    else (lowerKin (lowerCode n)).contains c.toNat
  | range lo hi =>
    let within (n : Nat) : Bool := lo ≤ n && n ≤ hi && n ≤ lastBasic
    let sources :=
      if ascii then [c.toNat, c.toNat - 0x20].filter (asciiLowerCode · == c.toNat)
      else (lowerKin c.toNat).flatMap loweredTo
    sources.any within ||
      (hi > lastBasic &&
        ((lo ≤ c.toNat && c.toNat ≤ hi) || (lo ≤ upperCode c.toNat && upperCode c.toNat ≤ hi)))
  | category k negated => k.has ascii c != negated

end SetItem

def lowerFor (ascii : Bool) (c : Char) : Char :=
  if ascii then Char.ofNat (asciiLowerCode c.toNat) else Text.foldLower c

-- Whether a single character is compared without regard to case.
def folds (f : Flags) (n : Nat) : Bool :=
  f.ignoreCase && if f.ascii then isAsciiCased n else isCasedCode n

def setFolds (f : Flags) (items : List SetItem) : Bool :=
  f.ignoreCase && items.any (·.hasCase f.ascii)

def charIs (f : Flags) (n : Nat) (c : Char) : Bool :=
  if folds f n then
    if f.ascii then asciiLowerCode c.toNat == asciiLowerCode n
    else (lowerKin (lowerCode n)).contains (lowerCode c.toNat)
  else c.toNat == n

-- A set that leaves out one character compares it as that character alone would.
def setHas (f : Flags) (negated : Bool) (items : List SetItem) (c : Char) : Bool :=
  match negated, items with
  | true, [.char n] => !charIs f n c
  | _, _ =>
    let found :=
      if setFolds f items then items.any (·.hasLowered f.ascii (lowerFor f.ascii c))
      else items.any (·.has f.ascii c)
    found != negated

theorem charIs_of_caseSensitive {f : Flags} (h : f.ignoreCase = false) (n : Nat) (c : Char) :
    charIs f n c = (c.toNat == n) := by
  simp [charIs, folds, h]

end RefWatch.Pattern
