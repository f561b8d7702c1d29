import Highlight.GrammarError
import Highlight.Pattern.Matching
import Highlight.Pattern.Reader

/-!
# Rules

A rule gives a tag to the text that a pattern selects: its first group if it has groups, else the whole
match.  Free rules look for their pattern anywhere after the cursor, anchored ones only at the cursor.
A pattern sees nothing of the text before the cursor.
-/

namespace Highlight

/-- A stretch of a text, from `start` up to `stop`. -/
structure Span where
  start : Nat
  stop : Nat
  deriving DecidableEq, Repr

/-- The text of a span. -/
def Span.of (s : Span) (source : List Char) : List Char :=
  (source.drop s.start).take (s.stop - s.start)

/-- A tag for the texts of a pattern.  The pattern is the one its text denotes and does not match the
empty text. -/
structure Rule where
  tag : String
  text : String
  anchored : Bool := false
  pattern : Pattern
  reads : Pattern.ofText text.toList = .ok pattern
  nonempty : pattern.matchesEmpty = false

namespace Rule

/-- The rule with the pattern of a text, unless there is none or it matches the empty text. -/
def ofText (tag text : String) (anchored : Bool := false) : Except GrammarError Rule :=
  match reads : Pattern.ofText text.toList with
  | .error e => .error (.invalidPattern tag text e)
  | .ok pattern =>
    if h : pattern.matchesEmpty then .error (.matchesEmpty tag text)
    else .ok { tag, text, anchored, pattern, reads, nonempty := by simpa using h }

/-- The span that a rule selects in a text of its own. -/
def select (r : Rule) (text : List Char) : Option Span :=
  match if r.anchored then r.pattern.matchStart text else r.pattern.search text with
  | none => none
  | some found =>
    if r.pattern.captures then (found.final.group? 1).map fun g => ⟨g.start, g.stop⟩
    else some ⟨found.start, found.final.offset⟩

/-- The span that a rule selects at or after the cursor, if any. -/
def find (r : Rule) (source : List Char) (cursor : Nat) : Option Span :=
  (r.select (source.drop cursor)).map fun s => ⟨s.start + cursor, s.stop + cursor⟩

/-- A run of ASCII white space at the cursor. -/
def blanks : Rule where
  tag := "whitespace"
  text := "\\s+"
  anchored := true
  pattern := .times 1 none true (.one (.ofCategory .space false))
  reads := Pattern.ofText_of_isDenotedBy (by decide +kernel)
  nonempty := by rfl

/-- Any one character at the cursor. -/
def anyChar : Rule where
  tag := "ind"
  text := "(?s:.)"
  anchored := true
  pattern := .one .all
  reads := Pattern.ofText_of_isDenotedBy (by decide +kernel)
  nonempty := by rfl

/-- The rules of a table, followed by the two that every table ends with. -/
def complete (rules : List Rule) : List Rule := rules ++ [blanks, anyChar]

end Rule

end Highlight
