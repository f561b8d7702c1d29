import Highlight.Combine
import Highlight.Split.Basic

/-!
# Tokenizing with a grammar

A grammar sets up a table of rules and then takes steps, each of which moves the cursor forward and
yields a batch of tokens.  Most grammars step by their table (`Grammar.ofTable`) and only add tags to
each batch; a batch may also add tags to the token just before it.

## Termination

Every step of `tokenize` moves the cursor forward or ends in an error, so the text that is left gets
shorter.
-/

namespace Highlight

/-- The state of tokenizing one text. -/
structure LexerState where
  source : List Char
  cursor : Nat := 0
  /-- The tokens of the batches so far. -/
  tokens : List Token := []
  rules : List Rule := []
  /-- The reserved words of the language, where the grammar has any. -/
  keywords : Option (List String) := none
  /-- The number of steps taken. -/
  steps : Nat := 0

/-- What a step of a grammar does. -/
structure Step where
  /-- The cursor after the step, which a step may put anywhere. -/
  cursor : Int
  /-- The new tokens; a step may have none to give. -/
  batch : Option (List Token)
  /-- Tags for the last token of the batches before. -/
  backTags : List String := []

/-- A list whose last element is changed. -/
def modifyLast {α : Type} (f : α → α) : List α → List α
  | [] => []
  | [a] => [f a]
  | a :: b :: rest => a :: modifyLast f (b :: rest)

namespace LexerState

/-- The character at the cursor. -/
def current? (s : LexerState) : Option Char := s.source[s.cursor]?

/-- The last token so far. -/
def last? (s : LexerState) : Option Token := s.tokens.getLast?

/-- The state after a step; a cursor before the start counts as one at the start. -/
def after (s : LexerState) (t : Step) : LexerState :=
  { s with
    cursor := t.cursor.toNat
    tokens := modifyLast (·.addTags t.backTags) s.tokens ++ t.batch.getD []
    steps := s.steps + 1 }

end LexerState

/-- A language: how to set up the state, and how to take a step. -/
structure Grammar where
  name : String
  setUp : LexerState → Except GrammarError LexerState
  step : LexerState → Except GrammarError Step

/-- How a language adds tags to a batch, given the state before it: the batch, and the tags for the
token before it. -/
abbrev Retagging := LexerState → List Token → List Token × List String

/-- The step by the table of rules. -/
def LexerState.tableStep (retag : Retagging) (s : LexerState) : Except GrammarError Step := do
  let (batch, cursor) ← splitStep s.source s.cursor s.rules
  let (batch, backTags) := retag s batch
  return { cursor := ↑cursor, batch := some batch, backTags }

/-- A language that steps by its table of rules. -/
def Grammar.ofTable (name : String) (setUp : LexerState → Except GrammarError LexerState)
    (retag : Retagging) : Grammar :=
  { name, setUp, step := LexerState.tableStep retag }

/-- The tokens of the source of a state from its cursor on, after those it holds. -/
def Grammar.run (g : Grammar) (s : LexerState) : Except GrammarError (List Token) :=
  if s.cursor < s.source.length then
    match g.step s with
    | .error e => .error e
    | .ok t =>
      if t.cursor ≤ s.cursor then .error (.noProgress g.name s.cursor s.source)
      else g.run (s.after t)
  else .ok s.tokens
termination_by s.source.length - s.cursor
decreasing_by
  simp only [LexerState.after]
  omega

/-- A run goes on after a step that moves the cursor forward. -/
theorem run_of_forward {g : Grammar} {s : LexerState} {t : Step} (left : s.cursor < s.source.length)
    (step : g.step s = .ok t) (forward : s.cursor < t.cursor) : g.run s = g.run (s.after t) := by
  rw [Grammar.run, if_pos left, step]
  exact if_neg (Int.not_le.mpr forward)

/-- A step by the table of rules, where the text can be split. -/
theorem step_of_splitStep {g : Grammar} {retag : Retagging} (hstep : g.step = LexerState.tableStep retag)
    {s : LexerState} {batch : List Token} {stop : Nat}
    (h : splitStep s.source s.cursor s.rules = .ok (batch, stop)) :
    g.step s = .ok { cursor := stop, batch := (retag s batch).1, backTags := (retag s batch).2 } := by
  rw [hstep, LexerState.tableStep, h]
  rfl

/-- A run by the table of rules fails where the text cannot be split. -/
theorem run_of_splitStep_error {g : Grammar} {retag : Retagging}
    (hstep : g.step = LexerState.tableStep retag) {s : LexerState} {e : GrammarError}
    (hc : s.cursor < s.source.length) (h : splitStep s.source s.cursor s.rules = .error e) :
    g.run s = .error e := by
  rw [Grammar.run, if_pos hc, hstep, LexerState.tableStep, h]
  rfl

/-- The tokens of a text as the steps of a grammar give them. -/
def rawTokens (g : Grammar) (source : List Char) : Except GrammarError (List Token) :=
  (g.setUp { source }).bind g.run

/-- The tokens of a text, with runs of the same tags merged unless `combined` is false. -/
def tokenize (g : Grammar) (source : List Char) (combined : Bool := true) :
    Except GrammarError (List Token) :=
  (rawTokens g source).map fun ts => if combined then combine ts else ts

end Highlight
