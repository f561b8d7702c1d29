import Highlight.Text.Lines
import Highlight.Text.Quoted

/-!
# Errors in the text of a pattern

Every reason to refuse a pattern is a constructor of `Fault`; `PatternError` adds the place, counted
in characters from the start of the pattern text.
-/

namespace Highlight

open Text

/-- What is wrong with a pattern text. -/
inductive Fault where
  /-- The text ends in a backslash that escapes nothing. -/
  | danglingEscape
  | badEscape (text : String)
  | incompleteEscape (text : String)
  | octalTooLarge (text : String)
  | unterminatedSet
  | badRange (lo hi : String)
  | nothingToRepeat
  | multipleRepeat
  | repeatBoundsReversed
  | unclosedGroup
  | unbalancedParenthesis
  | unexpectedEnd
  | unknownExtension (text : String)
  | misplacedFlags
  | unknownFlag
  | missingFlag
  | missingFlagEnd
  | missingColon
  | contradictoryFlag
  | localeFlag
  | permanentFlag
  | unterminatedComment
  | missingGroupName
  | unterminatedGroupName (close : Char)
  | badGroupName (name : String)
  | unknownGroupName (name : String)
  | redefinedGroup (name : String) (index earlier : Nat)
  | badGroupNumber
  | invalidGroupReference (index : Nat)
  | openGroupReference
  /-- A condition on a group has more than two branches. -/
  | thirdBranch
  /-- A lookbehind refers to a group of its own. -/
  | lookbehindGroupReference
  | varyingLookbehind
  deriving DecidableEq, Repr

/-- The wording of a fault. -/
def Fault.message : Fault → String
  | .danglingEscape => "bad escape (end of pattern)"
  | .badEscape text => s!"bad escape {text}"
  | .incompleteEscape text => s!"incomplete escape {text}"
  | .octalTooLarge text => s!"octal escape value {text} outside of range 0-0o377"
  | .unterminatedSet => "unterminated character set"
  | .badRange lo hi => s!"bad character range {lo}-{hi}"
  | .nothingToRepeat => "nothing to repeat"
  | .multipleRepeat => "multiple repeat"
  | .repeatBoundsReversed => "min repeat greater than max repeat"
  | .unclosedGroup => "missing ), unterminated subpattern"
  | .unbalancedParenthesis => "unbalanced parenthesis"
  | .unexpectedEnd => "unexpected end of pattern"
  | .unknownExtension text => s!"unknown extension ?{text}"
  | .misplacedFlags => "global flags not at the start of the expression"
  | .unknownFlag => "unknown flag"
  | .missingFlag => "missing flag"
  | .missingFlagEnd => "missing -, : or )"
  | .missingColon => "missing :"
  | .contradictoryFlag => "bad inline flags: flag turned on and off"
  | .localeFlag => "bad inline flags: cannot use 'L' flag with a str pattern"
  | .permanentFlag => "bad inline flags: cannot turn off flags 'a', 'u' and 'L'"
  | .unterminatedComment => "missing ), unterminated comment"
  | .missingGroupName => "missing group name"
  | .unterminatedGroupName close => s!"missing {close}, unterminated name"
  | .badGroupName name => s!"bad character in group name {quoted name}"
  | .unknownGroupName name => s!"unknown group name {quoted name}"
  | .redefinedGroup name index earlier =>
    s!"redefinition of group name {quoted name} as group {index}; was group {earlier}"
  | .badGroupNumber => "bad group number"
  | .invalidGroupReference index => s!"invalid group reference {index}"
  | .openGroupReference => "cannot refer to an open group"
  | .thirdBranch => "conditional backref with more than two branches"
  | .lookbehindGroupReference =>
    "cannot refer to group defined in the same lookbehind subpattern"
  | .varyingLookbehind => "look-behind requires fixed-width pattern"

/-- A fault and, where it has one, its place. -/
structure PatternError where
  fault : Fault
  offset : Option Nat
  deriving DecidableEq, Repr

/-- The wording of an error in the pattern `text`: the fault, its offset, and in a pattern of several
lines also line and column. -/
def PatternError.message (e : PatternError) (text : List Char) : String :=
  match e.offset with
  | none => e.fault.message
  | some n =>
    let place := s!"{e.fault.message} at position {n}"
    if '\n' ∈ text then
      let before := text.take n
      let line := before.count '\n' + 1
      let column := (before.reverse.takeWhile (· ≠ '\n')).length + 1
      s!"{place} (line {line}, column {column})"
    else place

end Highlight
