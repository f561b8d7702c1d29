import Highlight.Grammar.Literal
import Highlight.Lexer

/-!
# The grammar of Lua

Lua and its typed dialect.  Reserved words have the tag `keyword` beside that of the rule that found
them, and names in capital letters are constants.
-/

namespace Highlight.Lua

/-! ## Rules -/

/-- A character that can start a name. -/
def nameStart : CharClass := { items := [.range 65 90, .range 97 122, .range 95 95] }

/-- A character that can stand in a name. -/
def namePart : CharClass := .ofCategory .word false

/-- The characters that operators are made of. -/
def operatorChars : List Char :=
  ['-', '+', '*', '/', '^', '%', '#', '(', ')', '[', ']', '{', '}', '=', '<', '>', ',', '.', ':', ';']

/-- A name. -/
def identifier : Pattern := .concat [.one nameStart, .many 0 namePart]

/-- The text between two apostrophes. -/
def string : Rule where
  tag := "string"
  text := "'[^']*'"
  pattern := .concat [.char '\'', .many 0 (.except '\''), .char '\'']
  reads := Pattern.ofText_of_isDenotedBy (by decide +kernel)
  nonempty := by rfl

/-- A name before a list in parentheses, which may be left open; the name is the token. -/
def method : Rule where
  tag := "method"
  text := "([A-Za-z_]\\w*)\\([^)]*\\)?"
  pattern := .concat [.group 1 identifier, .char '(', .many 0 (.except ')'), .optional (.char ')')]
  reads := Pattern.ofText_of_isDenotedBy (by decide +kernel)
  nonempty := by rfl

def variableName : Rule where
  tag := "var"
  text := "[A-Za-z_]\\w*"
  pattern := identifier
  reads := Pattern.ofText_of_isDenotedBy (by decide +kernel)
  nonempty := by rfl

/-- A run of operator characters. -/
def operator : Rule where
  tag := "operator"
  text := "[-+*/^%#()\\[\\]{}=<>,.:;]+"
  pattern := .many 1 (.ofList operatorChars)
  reads := Pattern.ofText_of_isDenotedBy (by decide +kernel)
  nonempty := by rfl

/-- The rules, in order of priority. -/
def rules : List Rule :=
  [Literal.string, string, Literal.exponential, Literal.hexadecimal, method, variableName,
    Literal.binary, Literal.fraction, Literal.integer, operator]

/-! ## Tags -/

/-- The reserved words. -/
def keywords : List String :=
  ["and", "break", "continue", "do", "else", "elseif", "end", "export", "false", "for", "function",
    "if", "in", "local", "nil", "not", "or", "repeat", "return", "self", "then", "true", "type",
    "typeof", "until", "while"]

/-- Whether a text is a name in capital letters and underscores. -/
def isConstant (cs : List Char) : Bool := !cs.isEmpty && cs.all fun c => c.isUpper || c == '_'

/-- A token with the tags of constants and of the reserved words `words`. -/
def tagWord (words : List String) (t : Token) : Token :=
  let t := if t.hasTag "var" && isConstant t.content then t.addTag "constant" else t
  if words.contains (String.ofList t.content) then t.addTag "keyword" else t

/-- A batch with the tags of constants and reserved words. -/
def retag : Retagging := fun s batch => (batch.map (tagWord (s.keywords.getD [])), [])

/-- Sets up the table of rules and the reserved words. -/
def setUp (s : LexerState) : Except GrammarError LexerState :=
  .ok { s with rules, keywords := some keywords }

/-- The grammar of Lua. -/
def grammar : Grammar := .ofTable "lua" setUp retag

end Highlight.Lua
