import TopicTables.Number.Numeral
import TopicTables.Pattern.Basic
import TopicTables.Text.Quoted

/-! # Faults of patterns

A text that is no pattern is refused with the first thing that is wrong and its offset.
-/

namespace TopicTables.Pattern

inductive Complaint where
  | escapeAtEnd
  | badEscape (escape : String)
  | incompleteEscape (escape : String)
  | octalTooLarge (escape : String)
  | noBrace
  | unknownCharacterName (name : String)
  | unterminatedSet
  | badRange (low high : String)
  | nothingToRepeat
  | multipleRepeat
  | leastAboveMost
  | unknownReference (number : Nat)
  | openReference
  | referenceWithinLookBehind
  | nameMissing (what : String)
  | nameUnterminated (terminator : Char)
  | badGroupName (name : String)
  | unknownGroupName (name : String)
  | repeatedGroupName (name : String) (number earlier : Nat)
  | badGroupNumber
  | patternEnds
  | unknownExtension (text : String)
  | unterminatedComment
  | unterminatedGroup
  | unbalanced
  | thirdBranch
  | flagsNotAtStart
  | unknownFlag
  | noFlag
  | noFlagEnd
  | noFlagColon
  | localeFlag
  | conflictingFlags
  | fixedFlag
  | globalFlagOn
  | globalFlagOff
  | flagOnAndOff
deriving DecidableEq, Repr

def Complaint.wording : Complaint → String
  | escapeAtEnd => "bad escape (end of pattern)"
  | badEscape escape => "bad escape " ++ escape
  | incompleteEscape escape => "incomplete escape " ++ escape
  | octalTooLarge escape => "octal escape value " ++ escape ++ " outside of range 0-0o377"
  | noBrace => "missing \x7b"
  | unknownCharacterName name => "undefined character name " ++ Text.quoted name
  | unterminatedSet => "unterminated character set"
  | badRange low high => "bad character range " ++ low ++ "-" ++ high
  | nothingToRepeat => "nothing to repeat"
  | multipleRepeat => "multiple repeat"
  | leastAboveMost => "min repeat greater than max repeat"
  | unknownReference number => "invalid group reference " ++ toString number
  | openReference => "cannot refer to an open group"
  | referenceWithinLookBehind =>
    "cannot refer to group defined in the same lookbehind subpattern"
  | nameMissing what => "missing " ++ what
  | nameUnterminated terminator =>
    "missing " ++ String.singleton terminator ++ ", unterminated name"
  | badGroupName name => "bad character in group name " ++ Text.quoted name
  | unknownGroupName name => "unknown group name " ++ Text.quoted name
  | repeatedGroupName name number earlier =>
    "redefinition of group name " ++ Text.quoted name ++ " as group " ++ toString number ++
      "; was group " ++ toString earlier
  | badGroupNumber => "bad group number"
  | patternEnds => "unexpected end of pattern"
  | unknownExtension text => "unknown extension " ++ text
  | unterminatedComment => "missing ), unterminated comment"
  | unterminatedGroup => "missing ), unterminated subpattern"
  | unbalanced => "unbalanced parenthesis"
  | thirdBranch => "conditional backref with more than two branches"
  | flagsNotAtStart => "global flags not at the start of the expression"
  | unknownFlag => "unknown flag"
  | noFlag => "missing flag"
  | noFlagEnd => "missing -, : or )"
  | noFlagColon => "missing :"
  | localeFlag => "bad inline flags: cannot use 'L' flag with a str pattern"
  | conflictingFlags => "bad inline flags: flags 'a', 'u' and 'L' are incompatible"
  | fixedFlag => "bad inline flags: cannot turn off flags 'a', 'u' and 'L'"
  | globalFlagOn => "bad inline flags: cannot turn on global flag"
  | globalFlagOff => "bad inline flags: cannot turn off global flag"
  | flagOnAndOff => "bad inline flags: flag turned on and off"

/-- Why a text is no pattern. -/
inductive Fault where
  | complaint (what : Complaint) (offset : Nat)
  /-- A look-behind does not take a fixed number of characters. -/
  | variableLookBehind
  /-- A look-behind takes more characters than can be counted. -/
  | farLookBehind
  /-- A pattern without repetitions repeats something. -/
  | repeatingTemplate (preference : Preference)
  /-- Two flags for the whole pattern exclude each other. -/
  | conflictingKinds
  /-- A number of rounds is too large to count. -/
  | tooManyRounds
  /-- A number has too many digits to be read. -/
  | tooManyDigits (count : Nat)
  /-- Brackets are nested too deeply to be read. -/
  | tooDeep
deriving DecidableEq, Repr

/-- The fault is one of the pattern. Any other breaks off the reading. -/
def Fault.isRefusal : Fault → Bool
  | complaint _ _ => true
  | variableLookBehind => true
  | farLookBehind => true
  | repeatingTemplate _ => true
  | conflictingKinds => false
  | tooManyRounds => false
  | tooManyDigits _ => false
  | tooDeep => false

def Preference.name : Preference → String
  | most => "MAX_REPEAT"
  | fewest => "MIN_REPEAT"
  | mostOnly => "POSSESSIVE_REPEAT"

/-- The wording of a fault of a pattern. A pattern of several lines shows the line and the column.
-/
def Fault.message (pattern : String) : Fault → String
  | complaint what offset =>
    let before := pattern.toList.take offset
    let place := what.wording ++ " at position " ++ toString offset
    if pattern.toList.contains '\n' then
      place ++ " (line " ++ toString (before.count '\n' + 1) ++ ", column " ++
        toString ((before.reverse.takeWhile (· != '\n')).length + 1) ++ ")"
    else place
  | variableLookBehind => "look-behind requires fixed-width pattern"
  | farLookBehind => "looks too much behind"
  | repeatingTemplate preference =>
    "internal: unsupported template operator " ++ preference.name
  | conflictingKinds => "ASCII and UNICODE flags are incompatible"
  | tooManyRounds => "the repetition number is too large"
  | tooDeep => "maximum recursion depth exceeded"
  | tooManyDigits count => Number.tooManyDigitsMessage count

end TopicTables.Pattern
