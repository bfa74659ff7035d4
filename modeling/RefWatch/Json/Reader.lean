import RefWatch.Json.Fault
import RefWatch.Text.Numeral
import RefWatch.Text.Quoted
import RefWatch.Text.Utf8

namespace RefWatch.Json

open Text (isAsciiDigit isHexDigit natOfDigits natOfHex quotationMark)

structure Dialect where
  -- How many containers that hold something may stand inside each other.
  depth : Nat
  -- The most digits before the point.
  longestNumeral : Nat
  limitsDecimals : Bool
  loneSurrogates : Bool

-- Notification bodies.
def Dialect.body : Dialect where
  depth := 200
  longestNumeral := 4300
  limitsDecimals := true
  loneSurrogates := false

-- Values of settings.
def Dialect.setting : Dialect where
  depth := 980
  longestNumeral := 4300
  limitsDecimals := false
  loneSurrogates := true

-- What is read off the front, and what is left.
abbrev Taken (α : Type) := Except Fault (α × List Char)

-- A fault at the first octet of what is left.
def misfit (m : Misfit) (s : List Char) : Except Fault α := .error ⟨m, s.length⟩

def atEnd (m : Misfit) : Except Fault α := .error ⟨m, 0⟩

def isBlank (c : Char) : Bool := c == ' ' || c == '\t' || c == '\n' || c == '\r'

def skipBlank (s : List Char) : List Char := s.dropWhile isBlank

def simpleEscape? (c : Char) : Option Char :=
  if c = quotationMark then some c
  else
    match c with
    | '\\' => some '\\'
    | '/' => some '/'
    | 'b' => some (Char.ofNat 8)
    | 'f' => some (Char.ofNat 12)
    | 'n' => some '\n'
    | 'r' => some '\r'
    | 't' => some '\t'
    | _ => none

-- The code unit of an escape with four hex digits.
def hexUnit (s : List Char) : Taken Nat :=
  let ds := s.take 4
  if ds.length < 4 then atEnd .endOfText
  else
    match ds.findIdx? (!isHexDigit ·) with
    | some i => misfit .badEscape (s.drop i)
    | none => .ok (natOfHex ds, s.drop 4)

def isHighSurrogate (n : Nat) : Bool := 0xD800 ≤ n && n ≤ 0xDBFF

def isLowSurrogate (n : Nat) : Bool := 0xDC00 ≤ n && n ≤ 0xDFFF

def pairedCode (high low : Nat) : Nat := 0x10000 + (high - 0xD800) * 0x400 + (low - 0xDC00)

-- The code point of a hex escape, after its `u`; two of them make a code point beyond the basic
-- plane.
def hexEscape (d : Dialect) (s : List Char) : Except Fault (Nat × List Char) := do
  let (n, rest) ← hexUnit s
  if isLowSurrogate n && !d.loneSurrogates then throw ⟨.loneSurrogate, rest.length + 1⟩
  if isHighSurrogate n then
    match rest with
    | '\\' :: 'u' :: rest' =>
      let (m, rest'') ← hexUnit rest'
      if isLowSurrogate m then return (pairedCode n m, rest'')
      else if d.loneSurrogates then return (n, rest)
      else throw ⟨.loneSurrogate, rest''.length + 1⟩
    | _ =>
      if d.loneSurrogates then return (n, rest)
      else
        match rest with
        | [] | ['\\'] => atEnd .endOfText
        | '\\' :: rest' => misfit .brokenPair rest'
        | _ => misfit .brokenPair rest
  else return (n, rest)

-- The octets that an escape stands for.
def escape (d : Dialect) : List Char → Taken (List Char)
  | 'u' :: s => (hexEscape d s).map fun (n, rest) => (Text.Utf8.encodeNat n, rest)
  | c :: s =>
    match simpleEscape? c with
    | some e => .ok ([e], s)
    | none => misfit .badEscape (c :: s)
  | [] => atEnd .endOfText

-- The octets of a text after its opening mark, up to its closing mark.
def octetsFrom (d : Dialect) : (fuel : Nat) → List Char → List Char → Taken (List Char)
  | 0, _, _ => atEnd .endOfText
  | _ + 1, _, [] => atEnd .endOfText
  | fuel + 1, done, c :: s =>
    if c = quotationMark then .ok (done.reverse, s)
    else if c.toNat < 0x20 then misfit .controlCharacter (c :: s)
    else if c = '\\' then
      match escape d s with
      | .ok (e, s) => octetsFrom d fuel (e.reverse ++ done) s
      | .error f => .error f
    else octetsFrom d fuel (c :: done) s

-- A text, or what can be made of one that is broken.
structure Spelling where
  text : String
  broken : Bool

def spelling (d : Dialect) (s : List Char) : Except Fault (Spelling × List Char) := do
  let (octets, rest) ← octetsFrom d (s.length + 1) [] s
  match Text.Utf8.decode octets with
  | (cs, []) => return (⟨String.ofList cs, false⟩, rest)
  | (_, bad) =>
    if d.loneSurrogates then return (⟨String.ofList (Text.Utf8.repair octets), true⟩, rest)
    else throw ⟨.badCharacter, s.length - (octets.length - bad.length + 1)⟩

-- The digits before the point: a single zero, or digits that do not begin with one.
def wholeDigits : List Char → Taken (List Char)
  | [] => atEnd .endOfValue
  | '0' :: c :: rest =>
    if isAsciiDigit c then misfit .badNumber (c :: rest) else .ok (['0'], c :: rest)
  | c :: rest =>
    if isAsciiDigit c then
      .ok (c :: rest.takeWhile isAsciiDigit, rest.dropWhile isAsciiDigit)
    else misfit .badNumber (c :: rest)

-- One digit or more.
def someDigits : List Char → Taken (List Char)
  | [] => atEnd .endOfValue
  | c :: rest =>
    if isAsciiDigit c then
      .ok (c :: rest.takeWhile isAsciiDigit, rest.dropWhile isAsciiDigit)
    else misfit .badNumber (c :: rest)

-- The digits after a point, if there is one.
def fraction : List Char → Taken (Option (List Char))
  | '.' :: s => (someDigits s).map fun (ds, rest) => (some ds, rest)
  | s => .ok (none, s)

def signedPower (negative : Bool) (s : List Char) : Taken (Option Int) :=
  (someDigits s).map fun (ds, rest) =>
    let n : Int := natOfDigits ds
    (some (if negative then -n else n), rest)

-- The power of ten after an `e`, if there is one.
def power (s : List Char) : Taken (Option Int) :=
  match s with
  | c :: rest =>
    if c = 'e' || c = 'E' then
      match rest with
      | '-' :: rest => signedPower true rest
      | '+' :: rest => signedPower false rest
      | _ => signedPower false rest
    else .ok (none, s)
  | [] => .ok (none, s)

def numeral (d : Dialect) (negative : Bool) (start : List Char) :
    Except Fault (Number × List Char) := do
  let (whole, s) ← wholeDigits start
  let isDecimal := s.head?.any fun c => c == '.' || c == 'e' || c == 'E'
  if whole.length > d.longestNumeral && (d.limitsDecimals || !isDecimal) then
    throw ⟨.numberTooLong, start.length - (d.longestNumeral + 1)⟩
  let (decimals, s) ← fraction s
  let (power, s) ← power s
  if !isDecimal then
    let n : Int := natOfDigits whole
    return (.whole (if negative then -n else n), s)
  else
    let decimals := decimals.getD []
    return (.decimal negative (natOfDigits (whole ++ decimals)) (power.getD 0 - decimals.length), s)

-- What is left after a word.
def word : (word : List Char) → List Char → Except Fault (List Char)
  | [], s => .ok s
  | _ :: _, [] => atEnd .endOfValue
  | w :: ws, c :: s => if c = w then word ws s else misfit .noWord (c :: s)

def wordValue (text : String) (j : Json) (s : List Char) : Taken Json :=
  (word text.toList s).map (j, ·)

-- A value that is no container and no text, by its first character.
def scalar (d : Dialect) (s : List Char) : Taken Json :=
  match s with
  | 'n' :: s => wordValue "ull" .null s
  | 't' :: s => wordValue "rue" (.bool true) s
  | 'f' :: s => wordValue "alse" (.bool false) s
  | 'N' :: s => wordValue "aN" (.number .notANumber) s
  | 'I' :: s => wordValue "nfinity" (.number (.infinite false)) s
  | '-' :: 'I' :: s => wordValue "nfinity" (.number (.infinite true)) s
  | '-' :: s => (numeral d true s).map fun (n, rest) => (.number n, rest)
  | c :: _ =>
    if isAsciiDigit c then (numeral d false s).map fun (n, rest) => (.number n, rest)
    else misfit .noValue s
  | [] => atEnd .endOfValue

-- The name of a member, up to its value.
def name (d : Dialect) (s : List Char) : Except Fault (Spelling × List Char) := do
  match s with
  | c :: rest =>
    if c = quotationMark then
      let (name, s) ← spelling d rest
      match skipBlank s with
      | ':' :: s =>
        match skipBlank s with
        | [] => atEnd .endOfValue
        | s => return (name, s)
      | [] => atEnd .endOfObject
      | s => misfit .noColon s
    else misfit .noName s
  | [] => atEnd .endOfValue

def member (name : Spelling) (j : Json) : String × Json :=
  (name.text, if name.broken then .misnamed j else j)

def ofSpelling (t : Spelling) : Json := if t.broken then .brokenText else .text t.text

mutual

-- A value, from its first character; `depth` containers with something in them may still open.
def value (d : Dialect) : (fuel depth : Nat) → List Char → Taken Json
  | 0, _, _ => atEnd .endOfValue
  | _ + 1, _, [] => atEnd .endOfValue
  | fuel + 1, depth, c :: s =>
    if c = quotationMark then (spelling d s).map fun (t, rest) => (ofSpelling t, rest)
    else if c = '[' then
      match skipBlank s with
      | [] => atEnd .endOfList
      | ']' :: rest => .ok (.list [], rest)
      | s =>
        match depth with
        | 0 => misfit .listTooDeep s
        | depth + 1 => (items d fuel depth s).map fun (js, rest) => (.list js, rest)
    else if c = '\x7b' then
      match skipBlank s with
      | [] => atEnd .endOfObject
      | '\x7d' :: rest => .ok (.object [], rest)
      | s =>
        match name d s with
        | .error f => .error f
        | .ok (n, s) =>
          match depth with
          | 0 => misfit .objectTooDeep s
          | depth + 1 => (members d fuel depth n s).map fun (ms, rest) => (.object ms, rest)
    else scalar d (c :: s)

-- One or more values with commas between them, and the closing bracket.
def items (d : Dialect) : (fuel depth : Nat) → List Char → Taken (List Json)
  | 0, _, _ => atEnd .endOfValue
  | fuel + 1, depth, s =>
    match value d fuel depth s with
    | .error f => .error f
    | .ok (j, s) =>
      match skipBlank s with
      | [] => atEnd .endOfList
      | ']' :: rest => .ok ([j], rest)
      | ',' :: s =>
        match skipBlank s with
        | ']' :: s => misfit .commaAtEnd (']' :: s)
        | s => (items d fuel depth s).map fun (js, rest) => (j :: js, rest)
      | s => misfit .noCommaInList s

-- The value of a named member, the other members with commas before them, and the closing brace.
def members (d : Dialect) : (fuel depth : Nat) → Spelling → List Char → Taken Members
  | 0, _, _, _ => atEnd .endOfValue
  | fuel + 1, depth, n, s =>
    match value d fuel depth s with
    | .error f => .error f
    | .ok (j, s) =>
      match skipBlank s with
      | [] => atEnd .endOfObject
      | '\x7d' :: rest => .ok ([member n j], rest)
      | ',' :: s =>
        match skipBlank s with
        | '\x7d' :: s => misfit .commaAtEnd ('\x7d' :: s)
        | s =>
          match name d s with
          | .error f => .error f
          | .ok (n', s) => (members d fuel depth n' s).map fun (ms, rest) => (member n j :: ms, rest)
      | s => misfit .noCommaInObject s

end

-- All octets as one document, with blanks around it.
def read (d : Dialect) (octets : List Char) : Except Fault Json := do
  let (j, rest) ← value d (2 * octets.length + 2) d.depth (skipBlank octets)
  match skipBlank rest with
  | [] => return j
  | s => misfit .moreAtEnd s

def readText (d : Dialect) (s : String) : Except Fault Json := read d (Text.Utf8.octets s.toUTF8)

def readBytes (d : Dialect) (bytes : ByteArray) : Except Fault Json := read d (Text.Utf8.octets bytes)

end RefWatch.Json
