import RefWatch.Json
import RefWatch.Text.Numeral

namespace RefWatch.Name

open Text (isAsciiAlphanumeric isHexDigit)

def isRepositoryChar (c : Char) : Bool :=
  isAsciiAlphanumeric c || c == '.' || c == '_' || c == '-'

def isRepository (s : String) : Bool := s != "" && s.toList.all isRepositoryChar

-- The rest of an account name: letters and digits, each of them perhaps after a single hyphen.
def isHyphenated : List Char → Bool
  | [] => true
  | '-' :: c :: cs => isAsciiAlphanumeric c && isHyphenated cs
  | c :: cs => isAsciiAlphanumeric c && isHyphenated cs

def longestAccount : Nat := 39

def isAccount (s : String) : Bool :=
  match s.toList with
  | [] => false
  | c :: cs => isAsciiAlphanumeric c && isHyphenated cs && cs.length < longestAccount

def commitLength : Nat := 40

def isCommit (s : String) : Bool := s.toList.length = commitLength && s.toList.all isHexDigit

-- A document is a name only if it is a string.
def accepts (form : String → Bool) : Json → Bool
  | .text s => form s
  | _ => false

theorem accepts_text (form : String → Bool) (s : String) : accepts form (.text s) = form s := rfl

end RefWatch.Name
