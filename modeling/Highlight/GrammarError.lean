import Highlight.Diagnostic
import Highlight.Pattern.Error

/-!
# Errors of grammars

The ways in which a grammar can break the rules of tokenizing, from a pattern that is none to a step
that makes no progress.
-/

namespace Highlight

open Text

/-- Why tokenizing failed. -/
inductive GrammarError where
  /-- The text of a rule's pattern is malformed. -/
  | invalidPattern (tag pattern : String) (error : PatternError)
  /-- The pattern of a rule matches the empty text. -/
  | matchesEmpty (tag pattern : String)
  /-- A rule selected an empty span of `source`. -/
  | emptyMatch (tag pattern : String) (offset : Nat) (source : List Char)
  /-- No rule selects anything. -/
  | noMatch (offset : Nat) (source : List Char)
  /-- A step of a grammar did not move the cursor forward. -/
  | noProgress (grammar : String) (offset : Nat) (source : List Char)
  | unknownGrammar (name : String) (available : List String)
  deriving DecidableEq, Repr

namespace GrammarError

/-- What an error reports. -/
def diagnostic : GrammarError → Diagnostic
  | .invalidPattern tag pattern error =>
    { message := s!"invalid pattern for {quoted tag}: {error.message pattern.toList}"
      pattern := some pattern }
  | .matchesEmpty tag pattern =>
    { message := s!"pattern for {quoted tag} matches the empty string", pattern := some pattern }
  | .emptyMatch tag pattern offset source =>
    { message := s!"rule {quoted tag} produced an empty match", pattern := some pattern
      offset := some offset, source := some source }
  | .noMatch offset source =>
    { message := "no rule matched", offset := some offset, source := some source }
  | .noProgress grammar offset source =>
    { message := s!"grammar {quoted grammar} did not advance the cursor"
      offset := some offset, source := some source }
  | .unknownGrammar name available =>
    let known := ", ".intercalate available
    { message := s!"unknown grammar '{name}' (available: {known})" }

/-- The report of an error. -/
def report (e : GrammarError) : String := e.diagnostic.format

end GrammarError

end Highlight
