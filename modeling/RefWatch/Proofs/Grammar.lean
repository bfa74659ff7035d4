import RefWatch.Json
import RefWatch.Json.Reader

namespace RefWatch.Json

open Text (isAsciiDigit isHexDigit natOfDigits natOfHex quotationMark)

def Blanks (w : List Char) : Prop := ∀ c ∈ w, isBlank c

-- Four hex digits with a value.
structure HexUnit (n : Nat) (w : List Char) : Prop where
  length : w.length = 4
  digits : ∀ c ∈ w, isHexDigit c
  value  : natOfHex w = n

-- Letters that stand for a character after a backslash.
def shortEscapes : List (Char × Char) :=
  [(quotationMark, quotationMark), ('\\', '\\'), ('/', '/'), ('b', Char.ofNat 8), ('f', Char.ofNat 12),
    ('n', '\n'), ('r', '\r'), ('t', '\t')]

-- The two surrogates that stand for a character together.
structure Paired (c : Char) (high low : Nat) : Prop where
  isHigh : isHighSurrogate high
  isLow  : isLowSurrogate low
  code   : c.toNat = pairedCode high low

-- The characters of a text, and what is written for them between the marks.
inductive Spells : List Char → List Char → Prop
  | nil : Spells [] []
  | raw {c : Char} (shown : 0x20 ≤ c.toNat) (inside : c ≠ quotationMark) (plain : c ≠ '\\')
    {cs w : List Char} (rest : Spells cs w) : Spells (c :: cs) (c :: w)
  | short {e c : Char} (letter : (e, c) ∈ shortEscapes)
    {cs w : List Char} (rest : Spells cs w) : Spells (c :: cs) ('\\' :: e :: w)
  | hex {c : Char} {ds : List Char} (unit : HexUnit c.toNat ds)
    {cs w : List Char} (rest : Spells cs w) : Spells (c :: cs) ('\\' :: 'u' :: (ds ++ w))
  | pair {c : Char} {high low : Nat} (both : Paired c high low) {ds es : List Char}
    (first : HexUnit high ds) (second : HexUnit low es)
    {cs w : List Char} (rest : Spells cs w) :
    Spells (c :: cs) ('\\' :: 'u' :: (ds ++ '\\' :: 'u' :: (es ++ w)))

-- A text between its marks.
def marked (w : List Char) : List Char := quotationMark :: (w ++ [quotationMark])

structure Digits (w : List Char) : Prop where
  digits : ∀ c ∈ w, isAsciiDigit c
  filled : w ≠ []

-- The digits before the point: a zero, or digits that do not begin with one; there may be too many.
structure Whole (longest : Nat) (w : List Char) : Prop extends Digits w where
  lead  : w.head? = some '0' → w = ['0']
  short : w.length ≤ longest

inductive Fraction : Option (List Char) → List Char → Prop
  | none : Fraction none []
  | some {ds : List Char} (h : Digits ds) : Fraction (some ds) ('.' :: ds)

inductive Power : Option Int → List Char → Prop
  | none : Power none []
  | plain {e : Char} (he : e = 'e' ∨ e = 'E') {ds : List Char} (h : Digits ds) :
    Power (some (natOfDigits ds)) (e :: ds)
  | plus {e : Char} (he : e = 'e' ∨ e = 'E') {ds : List Char} (h : Digits ds) :
    Power (some (natOfDigits ds)) (e :: '+' :: ds)
  | minus {e : Char} (he : e = 'e' ∨ e = 'E') {ds : List Char} (h : Digits ds) :
    Power (some (-(natOfDigits ds : Int))) (e :: '-' :: ds)

def signed (negative : Bool) (w : List Char) : List Char := if negative then '-' :: w else w

inductive Numeral (longest : Nat) : Number → List Char → Prop
  | whole (negative : Bool) {ds : List Char} (h : Whole longest ds) :
    Numeral longest (.whole (if negative then -(natOfDigits ds : Int) else natOfDigits ds))
      (signed negative ds)
  | decimal (negative : Bool) {ds f e : List Char} (h : Whole longest ds) {decimals : Option (List Char)}
    (hf : Fraction decimals f) {power : Option Int} (he : Power power e) (some : f ++ e ≠ []) :
    Numeral longest
      (.decimal negative (natOfDigits (ds ++ decimals.getD []))
        (power.getD 0 - (decimals.getD []).length))
      (signed negative (ds ++ f ++ e))
  | infinite (negative : Bool) :
    Numeral longest (.infinite negative) (signed negative "Infinity".toList)
  | notANumber : Numeral longest .notANumber "NaN".toList

-- What is written: a value, or what stands in a list or an object, which holds something.
inductive Part
  | value (j : Json)
  | items (js : List Json)
  | members (ms : Members)

inductive Writes (longest : Nat) : (depth : Nat) → Part → List Char → Prop
  | null {n : Nat} : Writes longest n (.value .null) "null".toList
  | true {n : Nat} : Writes longest n (.value (.bool Bool.true)) "true".toList
  | false {n : Nat} : Writes longest n (.value (.bool Bool.false)) "false".toList
  | number {n : Nat} {x : Number} {w : List Char} (h : Numeral longest x w) :
    Writes longest n (.value (.number x)) w
  | text {n : Nat} {s : String} {w : List Char} (h : Spells s.toList w) :
    Writes longest n (.value (.text s)) (marked w)
  | emptyList {n : Nat} {b : List Char} (hb : Blanks b) :
    Writes longest n (.value (.list [])) ('[' :: (b ++ [']']))
  | list {n : Nat} {js : List Json} {w : List Char} (h : Writes longest n (.items js) w) :
    Writes longest (n + 1) (.value (.list js)) ('[' :: (w ++ [']']))
  | emptyObject {n : Nat} {b : List Char} (hb : Blanks b) :
    Writes longest n (.value (.object [])) ('\x7b' :: (b ++ ['\x7d']))
  | object {n : Nat} {ms : Members} {w : List Char} (h : Writes longest n (.members ms) w) :
    Writes longest (n + 1) (.value (.object ms)) ('\x7b' :: (w ++ ['\x7d']))
  | lastItem {n : Nat} {j : Json} {a b w : List Char} (ha : Blanks a) (hb : Blanks b)
    (h : Writes longest n (.value j) w) : Writes longest n (.items [j]) (a ++ w ++ b)
  | item {n : Nat} {j : Json} {js : List Json} {a b w v : List Char} (ha : Blanks a) (hb : Blanks b)
    (h : Writes longest n (.value j) w) (rest : Writes longest n (.items js) v) :
    Writes longest n (.items (j :: js)) (a ++ w ++ b ++ ',' :: v)
  | lastMember {n : Nat} {name : String} {j : Json} {a b c d k w : List Char} (ha : Blanks a)
    (hb : Blanks b) (hc : Blanks c) (hd : Blanks d) (hk : Spells name.toList k)
    (h : Writes longest n (.value j) w) :
    Writes longest n (.members [(name, j)]) (a ++ marked k ++ b ++ ':' :: (c ++ w ++ d))
  | member {n : Nat} {name : String} {j : Json} {ms : Members} {a b c d k w v : List Char} (ha : Blanks a)
    (hb : Blanks b) (hc : Blanks c) (hd : Blanks d) (hk : Spells name.toList k)
    (h : Writes longest n (.value j) w) (rest : Writes longest n (.members ms) v) :
    Writes longest n (.members ((name, j) :: ms))
      (a ++ marked k ++ b ++ ':' :: (c ++ w ++ d ++ ',' :: v))

end RefWatch.Json
