import RefWatch.Json

namespace RefWatch.Json

inductive Misfit
  | endOfList
  | endOfObject
  | endOfText
  | endOfValue
  | noColon
  | noCommaInList
  | noCommaInObject
  | noWord
  | noValue
  | badEscape
  | badNumber
  | numberTooLong
  | badCharacter
  | controlCharacter
  | noName
  | loneSurrogate
  | brokenPair
  | commaAtEnd
  | moreAtEnd
  | listTooDeep
  | objectTooDeep
  deriving DecidableEq

def Misfit.message : Misfit → String
  | endOfList => "EOF while parsing a list"
  | endOfObject => "EOF while parsing an object"
  | endOfText => "EOF while parsing a string"
  | endOfValue => "EOF while parsing a value"
  | noColon => "expected \x60:\x60"
  | noCommaInList => "expected \x60,\x60 or \x60]\x60"
  | noCommaInObject => "expected \x60,\x60 or \x60\x7d\x60"
  | noWord => "expected ident"
  | noValue => "expected value"
  | badEscape => "invalid escape"
  | badNumber => "invalid number"
  | numberTooLong => "number out of range"
  | badCharacter => "invalid unicode code point"
  | controlCharacter => "control character (\\u0000-\\u001F) found while parsing a string"
  | noName => "key must be a string"
  | loneSurrogate => "lone leading surrogate in hex escape"
  | brokenPair => "unexpected end of hex escape"
  | commaAtEnd => "trailing comma"
  | moreAtEnd => "trailing characters"
  | listTooDeep | objectTooDeep => "recursion limit exceeded"

-- A misfit, and how many octets there are from its place to the end.
structure Fault where
  misfit : Misfit
  left : Nat
  deriving DecidableEq

-- The line of an octet, counted from one, and how many octets its line has up to it.
def position (octets : List Char) (index : Nat) : Nat × Nat :=
  let before := octets.take (index + 1)
  (before.count '\n' + 1, (before.reverse.takeWhile (· != '\n')).length)

def Fault.message (octets : List Char) (f : Fault) : String :=
  let (line, column) := position octets (octets.length - f.left)
  f.misfit.message ++ " at line " ++ toString line ++ " column " ++ toString column

end RefWatch.Json
