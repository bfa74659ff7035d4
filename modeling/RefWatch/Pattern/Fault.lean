import RefWatch.Pattern.Node
import RefWatch.Text.Quoted

namespace RefWatch.Pattern

open Text (quoted)

inductive Cause
  | danglingEscape
  | badEscape (text : String)
  | incompleteEscape (text : String)
  | octalTooLarge (text : String)
  | unknownCharacter (name : String)
  | missing (what : String)
  | openName (closer : String)
  | badGroupName (name : String)
  | unknownGroup (name : String)
  | groupTwice (name : String) (index earlier : Nat)
  | badGroupNumber
  | noSuchGroup (index : Nat)
  | openGroup
  | groupOfSameLookbehind
  | openSet
  | badRange (lo hi : String)
  | minAboveMax
  | nothingToRepeat
  | repeatTwice
  | unexpectedEnd
  | unknownExtension (text : String)
  | openComment
  | openSubpattern
  | thirdBranch
  | lateFlags
  | unknownFlag
  | localeFlag
  | mixedTypeFlags
  | typeFlagOff
  | globalFlagOn
  | globalFlagOff
  | flagOnAndOff
  | unbalanced
  | variableLookbehind
  | templateRepeat (g : Greed)
  deriving DecidableEq

def Greed.code : Greed → String
  | .greedy => "MAX_REPEAT"
  | .lazy => "MIN_REPEAT"
  | .possessive => "POSSESSIVE_REPEAT"

def Cause.message : Cause → String
  | danglingEscape => "bad escape (end of pattern)"
  | badEscape t => "bad escape " ++ t
  | incompleteEscape t => "incomplete escape " ++ t
  | octalTooLarge t => "octal escape value " ++ t ++ " outside of range 0-0o377"
  | unknownCharacter n => "undefined character name " ++ quoted n
  | missing w => "missing " ++ w
  | openName c => "missing " ++ c ++ ", unterminated name"
  | badGroupName n => "bad character in group name " ++ quoted n
  | unknownGroup n => "unknown group name " ++ quoted n
  | groupTwice n i e =>
    "redefinition of group name " ++ quoted n ++ " as group " ++ toString i ++
      "; was group " ++ toString e
  | badGroupNumber => "bad group number"
  | noSuchGroup i => "invalid group reference " ++ toString i
  | openGroup => "cannot refer to an open group"
  | groupOfSameLookbehind => "cannot refer to group defined in the same lookbehind subpattern"
  | openSet => "unterminated character set"
  | badRange lo hi => "bad character range " ++ lo ++ "-" ++ hi
  | minAboveMax => "min repeat greater than max repeat"
  | nothingToRepeat => "nothing to repeat"
  | repeatTwice => "multiple repeat"
  | unexpectedEnd => "unexpected end of pattern"
  | unknownExtension t => "unknown extension ?" ++ t
  | openComment => "missing ), unterminated comment"
  | openSubpattern => "missing ), unterminated subpattern"
  | thirdBranch => "conditional backref with more than two branches"
  | lateFlags => "global flags not at the start of the expression"
  | unknownFlag => "unknown flag"
  | localeFlag => "bad inline flags: cannot use 'L' flag with a str pattern"
  | mixedTypeFlags => "bad inline flags: flags 'a', 'u' and 'L' are incompatible"
  | typeFlagOff => "bad inline flags: cannot turn off flags 'a', 'u' and 'L'"
  | globalFlagOn => "bad inline flags: cannot turn on global flag"
  | globalFlagOff => "bad inline flags: cannot turn off global flag"
  | flagOnAndOff => "bad inline flags: flag turned on and off"
  | unbalanced => "unbalanced parenthesis"
  | variableLookbehind => "look-behind requires fixed-width pattern"
  | templateRepeat g => "internal: unsupported template operator " ++ g.code

inductive Fault
  | misread (cause : Cause) (pos : Nat)
  | unusable (cause : Cause)
  | repetitionTooLarge
  | numeralTooLong (digits : Nat)
  | asciiAndUnicode
  | lookbehindTooLong
  | tooDeep
  deriving DecidableEq

-- Lines and columns count from 1.
def lineAndColumn (text : List Char) (pos : Nat) : Nat × Nat :=
  let before := text.take pos
  (before.count '\n' + 1, (before.reverse.takeWhile (· ≠ '\n')).length + 1)

def Fault.message (text : String) : Fault → String
  | misread c pos =>
    let place := c.message ++ " at position " ++ toString pos
    if text.toList.contains '\n' then
      let (line, column) := lineAndColumn text.toList pos
      place ++ " (line " ++ toString line ++ ", column " ++ toString column ++ ")"
    else place
  | unusable c => c.message
  | repetitionTooLarge => "the repetition number is too large"
  | numeralTooLong n =>
    "Exceeds the limit (4300 digits) for integer string conversion: value has " ++ toString n ++
      " digits; use sys.set_int_max_str_digits() to increase the limit"
  | asciiAndUnicode => "ASCII and UNICODE flags are incompatible"
  | lookbehindTooLong => "invalid SRE code"
  | tooDeep => "maximum recursion depth exceeded"

end RefWatch.Pattern
