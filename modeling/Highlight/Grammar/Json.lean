import Highlight.Grammar.Literal
import Highlight.Lexer

/-!
# The grammar of JSON data

JSON with a few extensions of configuration files: constructors such as `vec3(1, 1, 1)`, enumeration
members, and binary and hexadecimal numbers.  A string before a colon is a key (`index`), and the
keyword `null` has a tag of its own.
-/

namespace Highlight.Json

/-! ## Rules -/

/-- The ASCII letters and digits. -/
def alphanumeric : CharClass := { items := [.range 65 90, .range 97 122, .range 48 57] }

/-- A word before a list in parentheses; the word is the token. -/
def constructor : Rule where
  tag := "constructor"
  text := "([A-Za-z0-9]+)\\([^)]*\\)"
  pattern := .concat [.group 1 (.many 1 alphanumeric), .char '(', .many 0 (.except ')'), .char ')']
  reads := Pattern.ofText_of_isDenotedBy (by decide +kernel)
  nonempty := by rfl

def trueWord : Rule where
  tag := "keyword"
  text := "true"
  pattern := .word ['t', 'r', 'u', 'e']
  reads := Pattern.ofText_of_isDenotedBy (by decide +kernel)
  nonempty := by rfl

def falseWord : Rule where
  tag := "keyword"
  text := "false"
  pattern := .word ['f', 'a', 'l', 's', 'e']
  reads := Pattern.ofText_of_isDenotedBy (by decide +kernel)
  nonempty := by rfl

def nullWord : Rule where
  tag := "keyword"
  text := "null"
  pattern := .word ['n', 'u', 'l', 'l']
  reads := Pattern.ofText_of_isDenotedBy (by decide +kernel)
  nonempty := by rfl

/-- The text between parentheses. -/
def parameter : Rule where
  tag := "parameter"
  text := "\\(([^)]+)\\)"
  pattern := .concat [.char '(', .group 1 (.many 1 (.except ')')), .char ')']
  reads := Pattern.ofText_of_isDenotedBy (by decide +kernel)
  nonempty := by rfl

def assignment : Rule where
  tag := "assignment"
  text := ":"
  pattern := .char ':'
  reads := Pattern.ofText_of_isDenotedBy (by decide +kernel)
  nonempty := by rfl

/-- A member of a named enumeration. -/
def enumMember : Rule where
  tag := "enum"
  text := "Enum\\.[A-Za-z0-9]+\\.[A-Za-z0-9]+"
  pattern := .concat [.char 'E', .char 'n', .char 'u', .char 'm', .char '.', .many 1 alphanumeric,
    .char '.', .many 1 alphanumeric]
  reads := Pattern.ofText_of_isDenotedBy (by decide +kernel)
  nonempty := by rfl

/-- A run of brackets. -/
def operator : Rule where
  tag := "operator"
  text := "[{}()\\[\\]]+"
  pattern := .many 1 (.ofList ['{', '}', '(', ')', '[', ']'])
  reads := Pattern.ofText_of_isDenotedBy (by decide +kernel)
  nonempty := by rfl

/-- The rules, in order of priority. -/
def rules : List Rule :=
  [Literal.string, constructor, trueWord, falseWord, nullWord, Literal.binary, Literal.hexadecimal,
    Literal.fraction, Literal.exponential, Literal.integer, parameter, assignment, enumMember, operator]

/-! ## Tags -/

/-- A token with the tag of the keyword `null`, if it is that. -/
def tagNull (t : Token) : Token :=
  if !t.hasTag "assignment" && t.hasTag "keyword" && t.content = ['n', 'u', 'l', 'l'] then
    t.addTag "null"
  else t

/-- Whether a token is a key, given the token after it. -/
def isKey (t next : Token) : Bool := next.hasTag "assignment" && t.hasTag "string"

/-- A batch with the tags of keys and of `null`. -/
def retagBatch : List Token → List Token
  | [] => []
  | [t] => [tagNull t]
  | t :: u :: rest =>
    (if isKey t u then (tagNull t).addTag "index" else tagNull t) :: retagBatch (u :: rest)

/-- The tags of a batch, and of the token before it, which is a key if the batch starts with a
colon. -/
def retag : Retagging := fun s batch =>
  let backTags :=
    match s.last?, batch with
    | some t, u :: _ => if isKey t u then ["index"] else []
    | _, _ => []
  (retagBatch batch, backTags)

/-- Sets up the table of rules. -/
def setUp (s : LexerState) : Except GrammarError LexerState := .ok { s with rules }

/-- The grammar of JSON data. -/
def grammar : Grammar := .ofTable "json" setUp retag

end Highlight.Json
