import ResourceQuery.Pattern.Node
import ResourceQuery.Text.Position
import ResourceQuery.Text.Quoted

/-!
Why a pattern is refused. `Cause.message` words the cause of a malformed pattern; `Fault.message`
adds where it was found.
-/
namespace ResourceQuery.Pattern

/-- What is wrong with a malformed pattern. -/
inductive Cause
  | danglingEscape
  | badEscape (escape : String)
  | incompleteEscape (escape : String)
  | octalRange (escape : String)
  | missingBrace
  | missingName (kind : String)
  | unterminatedName (terminator : Char)
  | unknownCharacter (name : String)
  | groupName (name : String)
  | unknownGroup (name : String)
  | groupNumber
  | groupReference (number : Nat)
  | openGroup
  | ownLookBehind
  | redefinition (name : String) (number earlier : Nat)
  | unterminatedSet
  | characterRange (low high : String)
  | repeatOrder
  | nothingToRepeat
  | multipleRepeat
  | unexpectedEnd
  | unknownExtension (text : String)
  | unterminatedComment
  | unterminatedGroup
  | unbalanced
  | branches
  | lateFlags
  | localeFlag
  | alphabetFlags
  | missingFlagEnd
  | missingFlag
  | missingColon
  | unknownFlag
  | globalFlagOn
  | globalFlagOff
  | alphabetFlagOff
  | flagOnAndOff
  | looksTooFar
  | variableLookBehind
  | templateRepeat (greed : Greed)
  deriving DecidableEq, Repr

/-- The wording of a cause. -/
def Cause.message : Cause → String
  | .danglingEscape => "bad escape (end of pattern)"
  | .badEscape escape => "bad escape " ++ escape
  | .incompleteEscape escape => "incomplete escape " ++ escape
  | .octalRange escape => "octal escape value " ++ escape ++ " outside of range 0-0o377"
  | .missingBrace => "missing \x7b"
  | .missingName kind => "missing " ++ kind
  | .unterminatedName terminator => "missing " ++ String.ofList [terminator] ++ ", unterminated name"
  | .unknownCharacter name => "undefined character name " ++ Text.quoted name
  | .groupName name => "bad character in group name " ++ Text.quoted name
  | .unknownGroup name => "unknown group name " ++ Text.quoted name
  | .groupNumber => "bad group number"
  | .groupReference number => "invalid group reference " ++ Nat.repr number
  | .openGroup => "cannot refer to an open group"
  | .ownLookBehind => "cannot refer to group defined in the same lookbehind subpattern"
  | .redefinition name number earlier =>
    "redefinition of group name " ++ Text.quoted name ++ " as group " ++ Nat.repr number ++
      "; was group " ++ Nat.repr earlier
  | .unterminatedSet => "unterminated character set"
  | .characterRange low high => "bad character range " ++ low ++ "-" ++ high
  | .repeatOrder => "min repeat greater than max repeat"
  | .nothingToRepeat => "nothing to repeat"
  | .multipleRepeat => "multiple repeat"
  | .unexpectedEnd => "unexpected end of pattern"
  | .unknownExtension text => "unknown extension " ++ text
  | .unterminatedComment => "missing ), unterminated comment"
  | .unterminatedGroup => "missing ), unterminated subpattern"
  | .unbalanced => "unbalanced parenthesis"
  | .branches => "conditional backref with more than two branches"
  | .lateFlags => "global flags not at the start of the expression"
  | .localeFlag => "bad inline flags: cannot use 'L' flag with a str pattern"
  | .alphabetFlags => "bad inline flags: flags 'a', 'u' and 'L' are incompatible"
  | .missingFlagEnd => "missing -, : or )"
  | .missingFlag => "missing flag"
  | .missingColon => "missing :"
  | .unknownFlag => "unknown flag"
  | .globalFlagOn => "bad inline flags: cannot turn on global flag"
  | .globalFlagOff => "bad inline flags: cannot turn off global flag"
  | .alphabetFlagOff => "bad inline flags: cannot turn off flags 'a', 'u' and 'L'"
  | .flagOnAndOff => "bad inline flags: flag turned on and off"
  | .looksTooFar => "looks too much behind"
  | .variableLookBehind => "look-behind requires fixed-width pattern"
  | .templateRepeat .greedy => "internal: unsupported template operator MAX_REPEAT"
  | .templateRepeat .lazy => "internal: unsupported template operator MIN_REPEAT"
  | .templateRepeat .possessive => "internal: unsupported template operator POSSESSIVE_REPEAT"

/-- Why a pattern is refused: it is malformed, at a position if one can be named; a repeat count
is too large; a repeat count has too many digits; or its flags exclude each other. -/
inductive Fault
  | malformed (cause : Cause) (position : Option Nat)
  | repeatLimit
  | digitLimit (count : Nat)
  | flagConflict
  deriving DecidableEq, Repr

/-- The wording of a cause in a pattern, with its position, and with line and column if the
pattern has several lines. -/
def malformedMessage (source : String) (cause : Cause) : Option Nat → String
  | none => cause.message
  | some position =>
    let place := cause.message ++ " at position " ++ Nat.repr position
    if source.toList.contains '\n' then
      let (line, column) := Text.lineColumn source.toList position
      place ++ " (line " ++ Nat.repr line ++ ", column " ++ Nat.repr column ++ ")"
    else place

end ResourceQuery.Pattern
