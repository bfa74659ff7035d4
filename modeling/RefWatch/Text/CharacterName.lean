import RefWatch.Text.CharacterName.Ancient
import RefWatch.Text.CharacterName.Brahmic
import RefWatch.Text.CharacterName.Cuneiform
import RefWatch.Text.CharacterName.EastAsian
import RefWatch.Text.CharacterName.European
import RefWatch.Text.CharacterName.Figure
import RefWatch.Text.CharacterName.Indic
import RefWatch.Text.CharacterName.Music
import RefWatch.Text.CharacterName.NearEastern
import RefWatch.Text.CharacterName.Other
import RefWatch.Text.CharacterName.Pictograph
import RefWatch.Text.CharacterName.Sign
import RefWatch.Text.CharacterName.SoutheastAsian
import RefWatch.Text.CharacterName.Syllabary
import RefWatch.Text.CharacterName.Tangut
import RefWatch.Text.Numeral
import RefWatch.Text.Runs
import RefWatch.Text.Split

namespace RefWatch.Text

namespace CharacterName

def lists : List (List String) :=
  [european, nearEastern, indic, southeastAsian, syllabary, sign, figure, eastAsian, ancient,
    brahmic, cuneiform, tangut, music, pictograph]

-- A code point and the words of its name.
structure Entry where
  code : Nat
  words : List String
  deriving DecidableEq

namespace Entry

-- The entry that comes after `e`. It keeps as many words of that name as are told, and belongs to the next
-- code point unless another one is told.
def next (e : Entry) (written : String) : Entry :=
  let (code, name) :=
    match written.splitOn "=" with
    | [start, name] => (natOfHex start.toList, name.toList)
    | _ => (e.code + 1, written.toList)
  let kept := e.words.take (digitValue (name.headD '0'))
  ⟨code, kept ++ (String.ofList name.tail).splitOn " "⟩

def find? (words : List String) : Entry → List String → Option Nat
  | _, [] => none
  | e, written :: more =>
    let f := e.next written
    if f.words = words then some f.code else find? words f more

end Entry

def inList? (words : List String) (list : List String) : Option Nat :=
  Entry.find? words ⟨0, []⟩ (list.flatMap (·.splitOn ";"))

def isUpperHexDigit (c : Char) : Bool := isAsciiDigit c || ('A' ≤ c && c ≤ 'F')

-- Characters whose names end in their own code points.
def byCode : List (String × Runs) := [
  ("CJK COMPATIBILITY IDEOGRAPH-", [(0xF900, 0xFA6D), (0xFA70, 0xFAD9), (0x2F800, 0x2FA1D)]),
  ("KHITAN SMALL SCRIPT CHARACTER-", [(0x18B00, 0x18CD5)]),
  ("NUSHU CHARACTER-", [(0x1B170, 0x1B2FB)])]

def codeAfter? (front : String) (runs : Runs) (name : List Char) : Option (Nat × Nat) := do
  let digits ← after? front.toList name
  let n := natOfHex digits
  if digits.all isUpperHexDigit && runs.has (Char.ofNat n) then some (n, digits.length) else none

def inFamily? (name : List Char) (family : String × Runs) : Option Nat := do
  let (n, length) ← codeAfter? family.1 family.2 name
  if length = if n < 0x10000 then 4 else 5 then some n else none

def ideographRuns : Runs :=
  [(0x3400, 0x4DBF), (0x4E00, 0x9FFF), (0x20000, 0x2A6DF), (0x2A700, 0x2B738), (0x2B740, 0x2B81D),
    (0x2B820, 0x2CEA1), (0x2CEB0, 0x2EBE0), (0x30000, 0x3134A)]

-- A code point of four digits may also be written with a zero in front.
def ideograph? (name : List Char) : Option Nat := do
  let (n, length) ← codeAfter? "CJK UNIFIED IDEOGRAPH-" ideographRuns name
  if length = 4 || length = 5 then some n else none

def leads : List String :=
  ["G", "GG", "N", "D", "DD", "R", "M", "B", "BB", "S", "SS", "", "J", "JJ", "C", "K", "T", "P",
    "H"]

def vowels : List String :=
  ["A", "AE", "YA", "YAE", "EO", "E", "YEO", "YE", "O", "WA", "WAE", "OE", "YO", "U", "WEO", "WE",
    "WI", "YU", "EU", "YI", "I"]

def tails : List String :=
  ["", "G", "GG", "GS", "N", "NJ", "NH", "D", "L", "LG", "LM", "LB", "LS", "LT", "LP", "LH", "M",
    "B", "BS", "S", "SS", "NG", "J", "C", "K", "T", "P", "H"]

-- The longest part that the text begins with, as its index and the text after it.
def longest? (parts : List String) (s : List Char) : Option (Nat × List Char) :=
  let found := parts.zipIdx.filterMap fun p => (after? p.1.toList s).map fun rest => (p.2, rest)
  found.foldl (fun best f => if best.all (f.2.length < ·.2.length) then some f else best) none

def syllable? (name : List Char) : Option Nat := do
  let rest ← after? "HANGUL SYLLABLE ".toList name
  let (l, rest) ← longest? leads rest
  let (v, rest) ← longest? vowels rest
  let (t, rest) ← longest? tails rest
  if rest.isEmpty then some (0xAC00 + (l * vowels.length + v) * tails.length + t) else none

-- Variation selectors also have short names, numbered from 1.
def selector? (name : List Char) : Option Nat := do
  let digits ← after? "VS".toList name
  let n := natOfDigits digits
  if (toString n).toList ≠ digits || n = 0 || n > 256 then none
  else if n ≤ 16 then some (0xFE00 + n - 1)
  else some (0xE0100 + n - 17)

end CharacterName

open CharacterName in
def characterNamed? (name : String) : Option Nat :=
  let upper := name.map Char.toUpper
  (syllable? name.toList).or <| (ideograph? name.toList).or <| (other.lookup upper).or <|
    (selector? upper.toList).or <| (byCode.findSome? (inFamily? upper.toList)).or <|
      lists.findSome? (inList? (upper.splitOn " "))

end RefWatch.Text
