import Highlight.Grammar.Json
import Highlight.Grammar.Lua

/-!
# Grammars made from data

A custom grammar takes over a built-in one, or starts from nothing, and replaces what it names: the
rules, the reserved words, and single steps.
-/

namespace Highlight

/-- What a custom grammar starts from. -/
inductive BaseGrammar where
  /-- No rules and no tags of its own. -/
  | plain
  | json
  | lua
  deriving DecidableEq, Repr

/-- The grammar of a base; the plain one leaves every batch as it is. -/
def BaseGrammar.grammar : BaseGrammar → Grammar
  | .plain => .ofTable "plain" .ok fun _ batch => (batch, [])
  | .json => Json.grammar
  | .lua => Lua.grammar

/-- A rule before its pattern is read. -/
structure RuleText where
  tag : String
  pattern : String
  anchored : Bool := false
  deriving DecidableEq, Repr

/-- The rules of a list of rule texts; the first text at fault is the error. -/
def Rule.ofTexts : List RuleText → Except GrammarError (List Rule)
  | [] => .ok []
  | t :: ts => do
    let rule ← Rule.ofText t.tag t.pattern t.anchored
    let rules ← Rule.ofTexts ts
    return rule :: rules

/-- A step laid down in advance: how far the cursor moves, and the tokens. -/
structure FixedStep where
  advance : Int
  batch : Option (List Token)

/-- A grammar made from data. -/
structure CustomGrammar where
  base : BaseGrammar := .plain
  name : String := "custom"
  /-- The rules in place of those of the base. -/
  rules : Option (List RuleText) := none
  /-- The reserved words in place of those of the base. -/
  keywords : Option (List String) := none
  /-- The first steps; where there is nothing, or nothing any more, the base takes the step. -/
  script : List (Option FixedStep) := []

namespace CustomGrammar

/-- Sets up the base and then what replaces parts of it. -/
def setUp (c : CustomGrammar) (s : LexerState) : Except GrammarError LexerState := do
  let s ← c.base.grammar.setUp s
  let s ← match c.rules with
    | none => pure s
    | some texts => do
      let rules ← Rule.ofTexts texts
      pure { s with rules }
  return match c.keywords with
    | none => s
    | some words => { s with keywords := some words }

/-- The step laid down for a state, else that of the base. -/
def step (c : CustomGrammar) (s : LexerState) : Except GrammarError Step :=
  match c.script[s.steps]?.join with
  | some fixed => .ok { cursor := s.cursor + fixed.advance, batch := fixed.batch }
  | none => c.base.grammar.step s

/-- The grammar. -/
def grammar (c : CustomGrammar) : Grammar := { name := c.name, setUp := c.setUp, step := c.step }

end CustomGrammar

end Highlight
