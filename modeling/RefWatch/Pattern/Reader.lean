import RefWatch.Pattern.Branches
import RefWatch.Pattern.Fault
import RefWatch.Pattern.Width
import RefWatch.Text.CharacterName
import RefWatch.Text.Identifier
import RefWatch.Text.Letter
import RefWatch.Text.Numeral

namespace RefWatch.Pattern

open Text (isAsciiDigit isAsciiLetter isHexDigit isIdentifier isOctalDigit natOfDigits natOfHex
  natOfOctal)

inductive Token
  | plain (c : Char)
  | escaped (c : Char)
  deriving DecidableEq

namespace Token

def chars : Token → List Char
  | plain c => [c]
  | escaped c => ['\\', c]

def text (t : Token) : String := String.ofList t.chars

def length (t : Token) : Nat := t.chars.length

def isPlain (p : Char → Bool) : Token → Bool
  | plain c => p c
  | escaped _ => false

end Token

-- The tokens of a text, and whether a single backslash is left at its end.
def tokens : List Char → List Token × Bool
  | [] => ([], false)
  | ['\\'] => ([], true)
  | '\\' :: c :: r => let (ts, d) := tokens r; (.escaped c :: ts, d)
  | c :: r => let (ts, d) := tokens r; (.plain c :: ts, d)

structure Reading where
  rest : List Token
  pos : Nat := 0
  dangling : Bool := false
  flags : Flags := {}
  names : List (String × Nat) := []
  -- The widths of the groups opened so far; an open group has none yet.
  groups : List (Option Width) := []
  -- Inside a look-behind: the number of groups, the whole included, when it began.
  lookbehindFrom : Option Nat := none
  -- Groups that conditionals ask for, with the place of the first time.
  asked : List (Nat × Nat) := []
  -- How many groups are open, the whole included.
  depth : Nat := 0

abbrev Scan := StateT Reading (Except Fault)

namespace Scan

def failAt (cause : Cause) (pos : Nat) : Scan α := throw (.misread cause pos)

-- Fails `back` characters before the next token.
def fail (cause : Cause) (back : Nat := 0) : Scan α := do failAt cause ((← get).pos - back)

def peek : Scan (Option Token) := do return (← get).rest.head?

def consume (n : Nat) : Scan Unit := do
  let s ← get
  let taken := s.rest.take n
  let s :=
    { s with rest := s.rest.drop n, pos := taken.foldl (fun pos (t : Token) => pos + t.length) s.pos }
  if !taken.isEmpty && s.rest.isEmpty && s.dangling then failAt .danglingEscape s.pos
  set s

def next? : Scan (Option Token) := do
  let t ← peek
  consume 1
  return t

def take (c : Char) : Scan Bool := do
  if (← peek) = some (.plain c) then
    consume 1
    return true
  else return false

def nextIs (c : Char) : Scan Bool := do return (← peek) == some (.plain c)

-- At most `n` tokens that are plain characters of a class.
def takeWhile (p : Char → Bool) (n : Nat) : Scan (List Char) := do
  let ts := ((← get).rest.take n).takeWhile (·.isPlain p)
  consume ts.length
  return ts.flatMap Token.chars

def allDigits : Scan (List Char) := do takeWhile isAsciiDigit (← get).rest.length

-- The text up to a closing character, which is taken too.
def nameUntil (closer : Char) (what : String) : Scan (List Char) := do
  let s ← get
  let name := s.rest.takeWhile (· ≠ .plain closer)
  let chars := name.flatMap Token.chars
  consume name.length
  if (← peek).isNone then
    if chars.isEmpty then fail (.missing what)
    else fail (.openName closer.toString) chars.length
  consume 1
  if chars.isEmpty then fail (.missing what) 1
  return chars

-- Skips past a character; tells whether it was there.
def skipPast (c : Char) : Scan Bool := do
  let skipped := (← get).rest.takeWhile (· ≠ .plain c)
  consume skipped.length
  take c

end Scan

open Scan

def largestRepeat : Nat := 4294967295

def mostGroups : Nat := 1073741823

-- How deep groups may nest.
def deepest : Nat := 491

namespace Reading

-- The number of groups, the whole match included.
def groupCount (s : Reading) : Nat := s.groups.length + 1

def closedWidth? (s : Reading) (index : Nat) : Option Width :=
  if index = 0 then none else (s.groups[index - 1]?).join

end Reading

def checkLookbehind (index : Nat) : Scan Unit := do
  let s ← get
  match s.lookbehindFrom with
  | none => return
  | some n =>
    if (s.closedWidth? index).isNone then fail .openGroup
    if index ≥ n then fail .groupOfSameLookbehind

def hexEscape (letter : Char) (n : Nat) : Scan Nat := do
  let ds ← takeWhile isHexDigit n
  let text := '\\' :: letter :: ds
  if ds.length ≠ n then fail (.incompleteEscape (String.ofList text)) text.length
  let code := natOfHex ds
  if code > 0x10FFFF then fail (.badEscape (String.ofList text)) text.length
  return code

def namedEscape : Scan Nat := do
  unless ← take '\x7b' do fail (.missing "\x7b")
  let name ← nameUntil '\x7d' "character name"
  match Text.characterNamed? (String.ofList name) with
  | some n => return n
  | none => fail (.unknownCharacter (String.ofList name)) (name.length + 4)

-- Escapes for one character that mean the same inside and outside a set.
def charEscape? (c : Char) : Scan (Option Nat) := do
  match c with
  | 'x' => some <$> hexEscape c 2
  | 'u' => some <$> hexEscape c 4
  | 'U' => some <$> hexEscape c 8
  | 'N' => some <$> namedEscape
  | _ => return none

def controlEscape? : Char → Option Nat
  | 'a' => some 7
  | 'b' => some 8
  | 'f' => some 12
  | 'n' => some 10
  | 'r' => some 13
  | 't' => some 9
  | 'v' => some 11
  | '\\' => some 92
  | _ => none

def categoryEscape? : Char → Option SetItem
  | 'd' => some (.category .digit false)
  | 'D' => some (.category .digit true)
  | 's' => some (.category .space false)
  | 'S' => some (.category .space true)
  | 'w' => some (.category .word false)
  | 'W' => some (.category .word true)
  | _ => none

def anchorEscape? : Char → Option Anchor
  | 'A' => some .textStart
  | 'b' => some .boundary
  | 'B' => some .noBoundary
  | 'Z' => some .textEnd
  | _ => none

def badEscape (digits : List Char) : Scan α :=
  fail (.badEscape (String.ofList ('\\' :: digits))) (digits.length + 1)

def octal (digits : List Char) : Scan Nat := do
  let n := natOfOctal digits
  if n > 0o377 then
    fail (.octalTooLarge (String.ofList ('\\' :: digits))) (digits.length + 1)
  return n

def setEscape (c : Char) : Scan SetItem := do
  if let some n := controlEscape? c then return .char n
  if let some i := categoryEscape? c then return i
  if let some n ← charEscape? c then return .char n
  if isOctalDigit c then return .char (← octal (c :: (← takeWhile isOctalDigit 2)))
  if isAsciiDigit c || isAsciiLetter c then badEscape [c]
  return .char c.toNat

-- A number after a backslash: three octal digits are a character, anything else a group.
def groupEscape (c : Char) : Scan Node := do
  let second ← takeWhile isAsciiDigit 1
  let octalSoFar := second.length = 1 && (c :: second).all isOctalDigit
  let third ← if octalSoFar then takeWhile isOctalDigit 1 else pure []
  let digits := c :: second ++ third
  if third.length = 1 then return .char (← octal digits)
  let index := natOfDigits digits
  let s ← get
  if index ≥ s.groupCount then fail (.noSuchGroup index) digits.length
  match s.closedWidth? index with
  | none => fail .openGroup (digits.length + 1)
  | some w =>
    checkLookbehind index
    return .backref index w

def escape (c : Char) : Scan Node := do
  if let some a := anchorEscape? c then return .anchor a
  if let some i := categoryEscape? c then return .set false [i]
  if let some n := controlEscape? c then return .char n
  if let some n ← charEscape? c then return .char n
  if c = '0' then return .char (natOfOctal (c :: (← takeWhile isOctalDigit 2)))
  if isAsciiDigit c then groupEscape c
  else if isAsciiLetter c then badEscape [c]
  else return .char c.toNat

def setMember (t : Token) : Scan SetItem :=
  match t with
  | .escaped c => setEscape c
  | .plain c => return .char c.toNat

-- The members of a set that was opened at `start`, its closing bracket included.
def setItems : Nat → Nat → List SetItem → Scan (List SetItem)
  | 0, start, _ => failAt .openSet start
  | fuel + 1, start, items => do
    let some this ← next? | failAt .openSet start
    if this = .plain ']' && !items.isEmpty then return items.reverse
    let low ← setMember this
    unless ← take '-' do return ← setItems fuel start (low :: items)
    let some that ← next? | failAt .openSet start
    if that = .plain ']' then return (.char '-'.toNat :: low :: items).reverse
    match low, ← setMember that with
    | .char lo, .char hi =>
      if hi < lo then fail (.badRange this.text that.text) (this.length + 1 + that.length)
      setItems fuel start (.range lo hi :: items)
    | _, _ => fail (.badRange this.text that.text) (this.length + 1 + that.length)

def setNode : Scan Node := do
  let start := (← get).pos - 1
  let negated ← take '^'
  let items := (← setItems ((← get).rest.length + 1) start []).eraseDups
  match negated, items with
  | false, [.char n] => return .char n
  | _, _ => return .set negated items

def repeatCount (digits : List Char) : Scan Nat := do
  if digits.length > Text.longestNumeral then throw (.numeralTooLong digits.length)
  let n := natOfDigits digits
  if n ≥ largestRepeat then throw .repetitionTooLarge
  return n

-- The bounds of a repeat; none if a brace turns out to stand for itself.
def repeatBounds (c : Char) : Scan (Option (Nat × Option Nat)) := do
  match c with
  | '?' => return some (0, some 1)
  | '*' => return some (0, none)
  | '+' => return some (1, none)
  | _ =>
    if ← nextIs '\x7d' then return none
    let here ← get
    let lo ← allDigits
    let hi ← if ← take ',' then allDigits else pure lo
    unless ← take '\x7d' do
      set here
      return none
    let min ← if lo.isEmpty then pure 0 else repeatCount lo
    if hi.isEmpty then return some (min, none)
    let max ← repeatCount hi
    if max < min then failAt .minAboveMax here.pos
    return some (min, some max)

def greed : Scan Greed := do
  if ← take '?' then return .lazy
  if ← take '+' then return .possessive
  return .greedy

-- Puts a repeat around the item read last.
def repeated (start min : Nat) (max : Option Nat) : List Node → Scan (List Node)
  | [] => failAt .nothingToRepeat start
  | .anchor _ :: _ => failAt .nothingToRepeat start
  | .rep .. :: _ => failAt .repeatTwice start
  | n :: ns => do return .rep min max (← greed) n :: ns

def flag? : Char → Option Flags
  | 'i' => some { ignoreCase := true }
  | 'm' => some { multiline := true }
  | 's' => some { dotAll := true }
  | 'x' => some { verbose := true }
  | 'a' => some { ascii := true }
  | 't' => some { template := true }
  | 'u' => some { unicode := true }
  | _ => none

def isFlag (c : Char) : Bool := (flag? c).isSome || c == 'L'

def noFlag (t : Token) (expected : String) : Scan α :=
  fail (if t.isPlain Text.isLetter then .unknownFlag else .missing expected) t.length

-- Flags to turn on, from `c`; ends with the character that ends the list.
def flagsOn : Nat → Char → Flags → Scan (Flags × Char)
  | 0, _, _ => fail .unexpectedEnd
  | fuel + 1, c, on => do
    if c = 'L' then fail .localeFlag
    let on := on.or ((flag? c).getD {})
    if on.ascii && on.unicode then fail .mixedTypeFlags
    match ← next? with
    | none => fail (.missing "-, : or )")
    | some (.plain d) =>
      if d = ')' || d = '-' || d = ':' then return (on, d)
      if isFlag d then flagsOn fuel d on else noFlag (.plain d) "-, : or )"
    | some t => noFlag t "-, : or )"

def flagsOff : Nat → Char → Flags → Scan Flags
  | 0, _, _ => fail .unexpectedEnd
  | fuel + 1, c, off => do
    if c = 'L' || c = 'a' || c = 'u' then fail .typeFlagOff
    let off := off.or ((flag? c).getD {})
    match ← next? with
    | none => fail (.missing ":")
    | some (.plain d) =>
      if d = ':' then return off
      if isFlag d then flagsOff fuel d off else noFlag (.plain d) ":"
    | some t => noFlag t ":"

-- Inline flags from their first character; none if they are for the whole pattern.
def inlineFlags (c : Char) : Scan (Option (Flags × Flags)) := do
  let fuel := (← get).rest.length + 1
  let (on, ending) ← if c = '-' then pure ({}, c) else flagsOn fuel c {}
  if ending = ')' then
    modify fun s => { s with flags := s.flags.or on }
    return none
  if on.template then fail .globalFlagOn 1
  let off ←
    if ending = '-' then
      match ← next? with
      | none => fail (.missing "flag")
      | some (.plain d) => if isFlag d then flagsOff fuel d {} else noFlag (.plain d) "flag"
      | some t => noFlag t "flag"
    else pure {}
  if off.template then fail .globalFlagOff 1
  if on.meets off then fail .flagOnAndOff 1
  return some (on, off)

def groupName (closer : Char) : Scan String := do
  let name ← nameUntil closer "group name"
  unless isIdentifier name do fail (.badGroupName (String.ofList name)) (name.length + 1)
  return String.ofList name

def namedBackref : Scan Node := do
  let name ← groupName ')'
  let s ← get
  match s.names.lookup name with
  | none => fail (.unknownGroup name) (name.length + 1)
  | some index =>
    match s.closedWidth? index with
    | none => fail .openGroup (name.length + 1)
    | some w =>
      checkLookbehind index
      return .backref index w

-- The group that a conditional asks for, by name or by number.
def conditionGroup : Scan Nat := do
  let chars ← nameUntil ')' "group name"
  let name := String.ofList chars
  let back := chars.length + 1
  let index ←
    if isIdentifier chars then
      match (← get).names.lookup name with
      | none => fail (.unknownGroup name) back
      | some index => pure index
    else
      match Text.intOfText? chars with
      | some (.ofNat 0) => fail .badGroupNumber back
      | some (.ofNat index) =>
        if index ≥ mostGroups then fail (.noSuchGroup index) back
        modify fun s =>
          if (s.asked.lookup index).isSome then s
          else { s with asked := s.asked ++ [(index, s.pos - back)] }
        pure index
      | _ => fail (.badGroupName name) back
  checkLookbehind index
  return index

def openGroup (name : Option String) : Scan Nat := do
  let s ← get
  let index := s.groupCount
  match name with
  | none => set { s with groups := s.groups ++ [none] }
  | some n =>
    match s.names.lookup n with
    | some earlier => fail (.groupTwice n index earlier) (n.length + 1)
    | none => set { s with groups := s.groups ++ [none], names := (n, index) :: s.names }
  return index

def closeGroup (index : Nat) (w : Width) : Scan Unit :=
  modify fun s => { s with groups := s.groups.set (index - 1) (some w) }

def closeParen (start : Nat) : Scan Unit := do
  unless ← take ')' do failAt .openSubpattern start

-- What a parenthesis opens, as far as its first characters tell.
inductive Opening
  | capture (name : Option String)
  | plain (on off : Flags)
  | atomic
  | look (ahead negated : Bool)
  | condition
  | done (n : Node)
  | nothing
  | flags

def namedOpening : Scan Opening := do
  if ← take '<' then return .capture (some (← groupName '>'))
  if ← take '=' then return .done (← namedBackref)
  match ← next? with
  | none => fail .unexpectedEnd
  | some t => fail (.unknownExtension ("P" ++ t.text)) (t.length + 2)

def lookbehindOpening : Scan Opening := do
  match ← next? with
  | none => fail .unexpectedEnd
  | some (.plain '=') => return .look false false
  | some (.plain '!') => return .look false true
  | some t => fail (.unknownExtension ("<" ++ t.text)) (t.length + 2)

def opening (start : Nat) : Scan Opening := do
  unless ← take '?' do return .capture none
  match ← next? with
  | none => fail .unexpectedEnd
  | some t =>
    match t with
    | .plain 'P' => namedOpening
    | .plain ':' => return .plain {} {}
    | .plain '#' => if ← skipPast ')' then return .nothing else failAt .openComment start
    | .plain '=' => return .look true false
    | .plain '!' => return .look true true
    | .plain '<' => lookbehindOpening
    | .plain '(' => return .condition
    | .plain '>' => return .atomic
    | .escaped _ => fail (.unknownExtension t.text) (t.length + 1)
    | .plain c =>
      if isFlag c || c = '-' then
        match ← inlineFlags c with
        | none => return .flags
        | some (on, off) => return .plain on off
      else fail (.unknownExtension t.text) (t.length + 1)

def enter : Scan Unit := do
  let s ← get
  if s.depth ≥ deepest then throw .tooDeep
  set { s with depth := s.depth + 1 }

def leave : Scan Unit := modify fun s => { s with depth := s.depth - 1 }

def isVerboseBlank (c : Char) : Bool := c == ' ' || (0x09 ≤ c.toNat && c.toNat ≤ 0x0D)

mutual

-- Alternatives up to a closing parenthesis or the end.
def branches : Nat → (verbose top : Bool) → List (List Node) → Scan Node
  | 0, _, _, _ => fail .unexpectedEnd
  | fuel + 1, verbose, top, done => do
    if done.isEmpty then enter
    let n ← sequence fuel verbose (top && done.isEmpty) []
    if ← take '|' then
      let s ← get
      let verbose := if top then s.flags.verbose else verbose
      branches fuel verbose top (n :: done)
    else
      leave
      return Node.ofList (Node.ofBranches (n :: done).reverse)

-- Items one after another; `done` holds those read so far, the last one first.
def sequence : Nat → (verbose first : Bool) → List Node → Scan (List Node)
  | 0, _, _, _ => fail .unexpectedEnd
  | fuel + 1, verbose, first, done => do
    match ← peek with
    | none | some (.plain '|') | some (.plain ')') =>
      return done.reverse.flatMap Node.unwrapped
    | some (.escaped c) =>
      consume 1
      let n ← escape c
      sequence fuel verbose first (n :: done)
    | some (.plain c) =>
      consume 1
      if verbose && isVerboseBlank c then sequence fuel verbose first done
      else if verbose && c = '#' then
        let _ ← skipPast '\n'
        sequence fuel verbose first done
      else
        match c with
        | '.' => sequence fuel verbose first (.any :: done)
        | '^' => sequence fuel verbose first (.anchor .lineStart :: done)
        | '$' => sequence fuel verbose first (.anchor .lineEnd :: done)
        | '[' =>
          let n ← setNode
          sequence fuel verbose first (n :: done)
        | '(' =>
          let (n, verbose) ← parenthesis fuel verbose (first && done.isEmpty)
          sequence fuel verbose first (n.toList ++ done)
        | _ =>
          if c = '*' || c = '+' || c = '?' || c = '\x7b' then
            let start := (← get).pos - 1
            match ← repeatBounds c with
            | none => sequence fuel verbose first (.char c.toNat :: done)
            | some (min, max) =>
              let done ← repeated start min max done
              sequence fuel verbose first done
          else sequence fuel verbose first (.char c.toNat :: done)

-- A parenthesis after its opening character, and whether blanks are skipped from there on.
def parenthesis : Nat → (verbose mayFlag : Bool) → Scan (Option Node × Bool)
  | 0, _, _ => fail .unexpectedEnd
  | fuel + 1, verbose, mayFlag => do
    let start := (← get).pos - 1
    match ← opening start with
    | .nothing => return (none, verbose)
    | .done n => return (some n, verbose)
    | .flags =>
      unless mayFlag do failAt .lateFlags start
      return (none, (← get).flags.verbose)
    | .condition =>
      let index ← conditionGroup
      let yes ← sequence fuel verbose false []
      let no ←
        if ← take '|' then
          let no ← sequence fuel verbose false []
          if ← nextIs '|' then fail .thirdBranch
          pure no
        else pure []
      closeParen start
      return (some (.cond index (Node.ofList yes) (Node.ofList no)), verbose)
    | .look ahead negated =>
      let outer := (← get).lookbehindFrom
      if !ahead && outer.isNone then
        modify fun s => { s with lookbehindFrom := some s.groupCount }
      let n ← branches fuel verbose false []
      modify fun s => { s with lookbehindFrom := outer }
      closeParen start
      return (some (.look ahead negated n), verbose)
    | .atomic =>
      let n ← branches fuel verbose false []
      closeParen start
      return (some (.atomic n), verbose)
    | .plain on off =>
      let n ← branches fuel ((verbose || on.verbose) && !off.verbose) false []
      closeParen start
      return (some (.group none on off n), verbose)
    | .capture name =>
      let index ← openGroup name
      let n ← branches fuel verbose false []
      closeParen start
      closeGroup index n.width
      return (some (.group (some index) {} {} n), verbose)

end

-- What a pattern may not ask of the matcher, outermost and leftmost first.
def Node.check (f : Flags) : Node → Except Cause Unit
  | .empty | .never | .any | .char _ | .set .. | .anchor _ | .backref .. => .ok ()
  | .seq a b | .alt a b => do
    a.check f
    b.check f
  | .cond _ y n => do
    y.check f
    n.check f
  | .group _ on off b => b.check (f.switch on off)
  | .atomic b => b.check f
  | .look ahead _ b => do
    unless ahead || b.width.Fixed do throw .variableLookbehind
    b.check f
  | .rep _ _ g b => do
    if f.template then throw (.templateRepeat g)
    b.check f

def longestLookbehind : Nat := 2147483647

-- Whether every look-behind can step back as far as it has to.
def Node.withinReach : Node → Bool
  | .empty | .never | .any | .char _ | .set .. | .anchor _ | .backref .. => true
  | .seq a b | .alt a b | .cond _ a b => a.withinReach && b.withinReach
  | .group _ _ _ b | .atomic b | .rep _ _ _ b => b.withinReach
  | .look ahead _ b => (ahead || b.width.min ≤ longestLookbehind) && b.withinReach

def wholePattern (length : Nat) : Scan (Node × Flags) := do
  let n ← branches (4 * (length + 2)) false true []
  let s ← get
  if s.flags.ascii && s.flags.unicode then throw .asciiAndUnicode
  unless s.rest.isEmpty do fail .unbalanced
  match s.asked.find? (·.1 ≥ s.groupCount) with
  | some (index, pos) => failAt (.noSuchGroup index) pos
  | none => return (n, s.flags)

-- Reads a whole pattern and the flags that hold for all of it.
def read (text : List Char) : Except Fault (Node × Flags) := do
  let (ts, dangling) := tokens text
  if ts.isEmpty && dangling then throw (.misread .danglingEscape 0)
  let ((n, f), _) ← (wholePattern text.length).run { rest := ts, dangling }
  (n.check f).mapError .unusable
  unless n.withinReach do throw .lookbehindTooLong
  return (n, f)

end RefWatch.Pattern
