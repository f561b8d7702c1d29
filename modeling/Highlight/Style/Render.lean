import Highlight.Style.Markup
import Highlight.Style.Theme
import Highlight.Token
import Highlight.Lexer

/-!
# Rendering tokens

Each token becomes its escaped text inside the tags that the theme asks for: color innermost, then
italics, then bold.  A token that no rule of the theme applies to is its escaped text alone.
-/

namespace Highlight

/-- The contents of tokens one after the other, each replaced where `replace` gives a text. -/
def joinTokens (ts : List Token) (replace : Token → Option (List Char) := fun _ => none) :
    List Char :=
  ts.flatMap fun t => (replace t).getD t.content

/-- A text in the style of a rule. -/
def ThemeRule.apply (rule : ThemeRule) (m : Markup) (text : List Char) : List Char :=
  let text := (m.color rule.color).wrap text
  let text := if rule.italic then m.italic.wrap text else text
  if rule.bold then m.bold.wrap text else text

/-- A token in markup. -/
def renderToken (theme : Theme) (m : Markup) (escape : List Char → List Char) (t : Token) :
    List Char :=
  match theme.ruleFor t.tags with
  | none => escape t.content
  | some rule => rule.apply m (escape t.content)

/-- Tokens in markup. -/
def render (ts : List Token) (theme : Theme := .dark) (m : Markup := .richText)
    (escape : List Char → List Char := Markup.escape) : List Char :=
  joinTokens ts fun t => some (renderToken theme m escape t)

/-- A source text in markup. -/
def highlight (source : List Char) (g : Grammar) (theme : Theme := .dark)
    (m : Markup := .richText) : Except GrammarError (List Char) :=
  (tokenize g source).map fun ts => render ts theme m

end Highlight
