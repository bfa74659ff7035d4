import RefWatch.Text.Case
import RefWatch.Text.Quoted
import RefWatch.Url.Address

namespace RefWatch.Url

open Text (afterLast cutFirst isAsciiDigit isAsciiLetter isHexDigit quoted)

inductive Fault
  | badBrackets
  | notAnAddress (text : List Char)
  | dottedInBrackets
  | badFutureAddress
  | disguisedDelimiter (authority : List Char)
  deriving DecidableEq

def Fault.message : Fault → String
  | badBrackets => "Invalid IPv6 URL"
  | notAnAddress t =>
    quoted (String.ofList t) ++ " does not appear to be an IPv4 or IPv6 address"
  | dottedInBrackets => "An IPv4 address cannot be in brackets"
  | badFutureAddress => "IPvFuture address is invalid"
  | disguisedDelimiter a =>
    "netloc '" ++ String.ofList a ++ "' contains invalid characters under NFKC normalization"

-- Characters whose compatible form has a slash, question mark, number sign, at sign or colon.
def disguises : List Nat := [
  0x2047, 0x2048, 0x2049, 0x2100, 0x2101, 0x2105, 0x2106, 0x2A74, 0xFE13, 0xFE16, 0xFE55, 0xFE56,
  0xFE5F, 0xFE6B, 0xFF03, 0xFF0F, 0xFF1A, 0xFF1F, 0xFF20]

-- Controls and blanks before an address do not count, nor do line breaks and tabs in it.
def cleaned (url : List Char) : List Char :=
  (url.dropWhile fun c => c.toNat ≤ 0x20).filter fun c => c != '\t' && c != '\r' && c != '\n'

def isSchemeChar (c : Char) : Bool :=
  isAsciiLetter c || isAsciiDigit c || c == '+' || c == '-' || c == '.'

-- What follows the scheme and its colon, or all of it if there is no scheme.
def afterScheme (url : List Char) : List Char :=
  match cutFirst ':' url with
  | (scheme, some rest) =>
    if scheme.head?.any isAsciiLetter && scheme.all isSchemeChar then rest else url
  | (_, none) => url

def endsAuthority (c : Char) : Bool := c == '/' || c == '?' || c == '#'

def authority (url : List Char) : List Char :=
  match afterScheme url with
  | '/' :: '/' :: rest => rest.takeWhile fun c => !endsAuthority c
  | _ => []

def checkBracketed (host : List Char) : Except Fault Unit :=
  match host with
  | 'v' :: rest =>
    match rest.span isHexDigit with
    | (_ :: _, '.' :: _ :: _) => .ok ()
    | _ => .error .badFutureAddress
  | _ =>
    if isDotted host then .error .dottedInBrackets
    else if isZoned host then .ok ()
    else .error (.notAnAddress host)

-- Brackets go around the whole host, and only a port may follow them.
def checkBrackets (authority : List Char) : Except Fault Unit :=
  let place := afterLast '@' authority
  match cutFirst '[' place with
  | (before, some bracketed) =>
    let (host, after) := cutFirst ']' bracketed
    if !before.isEmpty then .error .badBrackets
    else if ((after.getD []).head?).any (· != ':') then .error .badBrackets
    else checkBracketed host
  | (_, none) => checkBracketed (cutFirst ':' place).1

def checkAuthority (authority : List Char) : Except Fault Unit := do
  let opening := authority.contains '['
  let closing := authority.contains ']'
  if opening != closing then throw .badBrackets
  if opening && closing then checkBrackets authority
  if authority.any (disguises.contains ·.toNat) then throw (.disguisedDelimiter authority)

-- The host in an authority, without user and port.
def hostIn (authority : List Char) : List Char :=
  let place := afterLast '@' authority
  match cutFirst '[' place with
  | (_, some bracketed) => (cutFirst ']' bracketed).1
  | (_, none) => (cutFirst ':' place).1

-- A zone keeps its case.
def lowerHost (host : List Char) : List Char :=
  match cutFirst '%' host with
  | (name, none) => Text.lowerFrom false name
  | (name, some zone) => Text.lowerFrom false name ++ '%' :: zone

-- The host in lower case; none if there is none or it is empty.
def host? (url : String) : Except Fault (Option String) := do
  let authority := authority (cleaned url.toList)
  checkAuthority authority
  let host := hostIn authority
  return if host.isEmpty then none else some (String.ofList (lowerHost host))

end RefWatch.Url
