import Codebook.Text.Integer
import Codebook.Text.Quoted

/-!
# Regular expressions

The expressions that test files are recognised by: characters, sets, groups, repetitions in their
three moods, assertions and references to groups. Characters are kept as code points, because an
escape may name one that no text holds.
-/

namespace Codebook

/-- The kinds of character with a letter of their own. -/
inductive Regex.Kind
  | digit
  | blank
  | word
  deriving DecidableEq, Repr

/-- A member of a set. -/
inductive Regex.Member
  | code (n : Nat)
  | range (low high : Nat)
  | kind (k : Regex.Kind) (negated : Bool)
  deriving DecidableEq, Repr

/-- Places in a text that have no width. -/
inductive Regex.Place
  | lineStart
  | lineEnd
  | textStart
  | textEnd
  | boundary
  | inside
  deriving DecidableEq, Repr

/-- How a repetition takes its share: as much as it can, as little as it can, or as much as it can
without giving any back. -/
inductive Regex.Mood
  | greedy
  | lazy
  | possessive
  deriving DecidableEq, Repr

/-- The name of a repetition with a mood. -/
def Regex.Mood.name : Regex.Mood → String
  | .greedy => "MAX_REPEAT"
  | .lazy => "MIN_REPEAT"
  | .possessive => "POSSESSIVE_REPEAT"

/-- Switches of an expression. -/
structure Regex.Flags where
  ignoreCase : Bool
  multiline : Bool
  dotAll : Bool
  verbose : Bool
  ascii : Bool
  unicode : Bool
  template : Bool
  deriving DecidableEq, Repr

/-- The least and the greatest number of characters that an expression can take. -/
structure Regex.Width where
  least : Nat
  most : Nat
  deriving DecidableEq, Repr

/-- A regular expression. A look-behind has the width of what it looks for. -/
inductive Regex
  | code (n : Nat)
  | any
  | set (negated : Bool) (members : List Regex.Member)
  | place (p : Regex.Place)
  | seq (items : List Regex)
  | alt (branches : List Regex)
  | group (index : Option Nat) (on off : Regex.Flags) (body : Regex)
  | rep (least : Nat) (most : Option Nat) (mood : Regex.Mood) (body : Regex)
  | same (index : Nat)
  | look (behind : Option Regex.Width) (negated : Bool) (body : Regex)
  | atomic (body : Regex)
  | given (index : Nat) (yes no : Regex)
  deriving Repr

/-- What can be wrong with the text of an expression. -/
inductive Regex.Fault
  | escapeAtEnd
  | badEscape (escape : String)
  | incompleteEscape (escape : String)
  | octalRange (escape : String)
  | missingBrace
  | unknownCharacter (name : String)
  | unterminatedSet
  | badRange (low high : String)
  | minAboveMax
  | nothingToRepeat
  | multipleRepeat
  | unexpectedEnd
  | unknownExtension (text : String)
  | missingName (what : String)
  | unterminatedName (terminator : String)
  | badName (name : String)
  | unknownName (name : String)
  | redefinition (name : String) (index first : Nat)
  | openGroup
  | lookbehindGroup
  | badGroupNumber
  | invalidGroup (index : Nat)
  | manyBranches
  | unterminatedGroup
  | unterminatedComment
  | unbalanced
  | lateFlags
  | localeFlag
  | incompatibleFlags
  | unknownFlag
  | missingFlag
  | missingFlagEnd
  | missingColon
  | flagOff
  | flagOnAndOff
  | globalFlagOn
  | globalFlagOff
  | variableLookbehind
  | templateRepeat (mood : Regex.Mood)
  deriving DecidableEq, Repr

/-- The wording of a fault. -/
def Regex.Fault.message : Regex.Fault → String
  | .escapeAtEnd => "bad escape (end of pattern)"
  | .badEscape e => "bad escape " ++ e
  | .incompleteEscape e => "incomplete escape " ++ e
  | .octalRange e => "octal escape value " ++ e ++ " outside of range 0-0o377"
  | .missingBrace => "missing \x7b"
  | .unknownCharacter n => "undefined character name " ++ Text.quoted n
  | .unterminatedSet => "unterminated character set"
  | .badRange a b => "bad character range " ++ a ++ "-" ++ b
  | .minAboveMax => "min repeat greater than max repeat"
  | .nothingToRepeat => "nothing to repeat"
  | .multipleRepeat => "multiple repeat"
  | .unexpectedEnd => "unexpected end of pattern"
  | .unknownExtension t => "unknown extension " ++ t
  | .missingName w => "missing " ++ w
  | .unterminatedName t => "missing " ++ t ++ ", unterminated name"
  | .badName n => "bad character in group name " ++ Text.quoted n
  | .unknownName n => "unknown group name " ++ Text.quoted n
  | .redefinition n i f => "redefinition of group name " ++ Text.quoted n ++ " as group " ++
      toString i ++ "; was group " ++ toString f
  | .openGroup => "cannot refer to an open group"
  | .lookbehindGroup => "cannot refer to group defined in the same lookbehind subpattern"
  | .badGroupNumber => "bad group number"
  | .invalidGroup i => "invalid group reference " ++ toString i
  | .manyBranches => "conditional backref with more than two branches"
  | .unterminatedGroup => "missing ), unterminated subpattern"
  | .unterminatedComment => "missing ), unterminated comment"
  | .unbalanced => "unbalanced parenthesis"
  | .lateFlags => "global flags not at the start of the expression"
  | .localeFlag => "bad inline flags: cannot use 'L' flag with a str pattern"
  | .incompatibleFlags => "bad inline flags: flags 'a', 'u' and 'L' are incompatible"
  | .unknownFlag => "unknown flag"
  | .missingFlag => "missing flag"
  | .missingFlagEnd => "missing -, : or )"
  | .missingColon => "missing :"
  | .flagOff => "bad inline flags: cannot turn off flags 'a', 'u' and 'L'"
  | .flagOnAndOff => "bad inline flags: flag turned on and off"
  | .globalFlagOn => "bad inline flags: cannot turn on global flag"
  | .globalFlagOff => "bad inline flags: cannot turn off global flag"
  | .templateRepeat mood => "internal: unsupported template operator " ++ mood.name
  | .variableLookbehind => "look-behind requires fixed-width pattern"

/-- Why a text is no expression: a fault, with its place where it has one, a repetition count beyond
all bounds, one with too many digits, or two kinds of text asked for at once. -/
inductive Regex.Error
  | malformed (fault : Regex.Fault) (position : Option Nat) (pattern : String)
  | tooLarge
  | tooManyDigits (count : Nat)
  | twoModes
  deriving DecidableEq, Repr

/-- Where a position is in a pattern of several lines. -/
def Regex.lineAndColumn (position : Nat) (pattern : String) : String :=
  let before := pattern.toList.take position
  let line := before.count '\n' + 1
  let column := (before.reverse.takeWhile (· != '\n')).length + 1
  " (line " ++ toString line ++ ", column " ++ toString column ++ ")"

/-- The wording of an error. -/
def Regex.Error.message : Regex.Error → String
  | .malformed fault none _ => fault.message
  | .malformed fault (some position) pattern =>
    fault.message ++ " at position " ++ toString position ++
      (if pattern.contains '\n' then Regex.lineAndColumn position pattern else "")
  | .tooLarge => "the repetition number is too large"
  | .tooManyDigits count => "Exceeds the limit (" ++ toString Text.digitLimit ++
      " digits) for integer string conversion: value has " ++ toString count ++
      " digits; use sys.set_int_max_str_digits() to increase the limit"
  | .twoModes => "ASCII and UNICODE flags are incompatible"

namespace Regex

/-- No switch is set. -/
def Flags.none : Flags := ⟨false, false, false, false, false, false, false⟩

/-- The switches set in either. -/
def Flags.or (a b : Flags) : Flags :=
  ⟨a.ignoreCase || b.ignoreCase, a.multiline || b.multiline, a.dotAll || b.dotAll,
    a.verbose || b.verbose, a.ascii || b.ascii, a.unicode || b.unicode,
    a.template || b.template⟩

/-- The switches set in the first and not in the second. -/
def Flags.without (a b : Flags) : Flags :=
  ⟨a.ignoreCase && !b.ignoreCase, a.multiline && !b.multiline, a.dotAll && !b.dotAll,
    a.verbose && !b.verbose, a.ascii && !b.ascii, a.unicode && !b.unicode,
    a.template && !b.template⟩

/-- The switches inside a group that sets some and clears others. A kind of text that is set takes
the place of the one before. -/
def Flags.within (flags on off : Flags) : Flags :=
  let flags :=
    if on.ascii || on.unicode then { flags with ascii := false, unicode := false } else flags
  (flags.or on).without off

/-- Some switch is set in both. -/
def Flags.overlap (a b : Flags) : Bool :=
  (a.ignoreCase && b.ignoreCase) || (a.multiline && b.multiline) || (a.dotAll && b.dotAll) ||
    (a.verbose && b.verbose) || (a.ascii && b.ascii) || (a.unicode && b.unicode)

end Regex

end Codebook
