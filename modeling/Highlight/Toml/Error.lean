import Highlight.Crash
import Highlight.Text.Quoted

/-!
# Errors in TOML documents

What can be wrong with a document, and where: a place is given by the number of characters that are left
from it on.  Reading may also crash, in a document that has nothing wrong with it.
-/

namespace Highlight.Toml

open Text

/-- A dotted key. -/
abbrev Key := List String

/-- The parts of a key in quotes and parentheses; a single part is followed by a comma. -/
def Key.text (key : Key) : String :=
  match key with
  | [part] => "(" ++ quoted part ++ ",)"
  | parts => "(" ++ ", ".intercalate (parts.map quoted) ++ ")"

/-- What is wrong with a document. -/
inductive Fault where
  | invalidStatement
  | trailingText
  | invalidKeyStart
  | missingEquals
  | missingTableEnd
  | missingArrayEnd
  | declaredTwice (key : Key)
  | immutable (key : Key)
  | redefined (key : Key)
  | duplicateKey (part : String)
  /-- A key leads to a value that is no table, or has a value already. -/
  | overwritten
  | invalidValue
  | invalidMoment
  | unclosedArray
  | unclosedTable
  | unterminatedString
  | illegalCharacter (c : Char)
  | strayBackslash
  | invalidHexValue
  | notScalarValue
  | expected (text : String)
  | invalidCharacter (c : Char)
  deriving DecidableEq, Repr

/-- The wording of a fault. -/
def Fault.message : Fault → String
  | .invalidStatement => "Invalid statement"
  | .trailingText => "Expected newline or end of document after a statement"
  | .invalidKeyStart => "Invalid initial character for a key part"
  | .missingEquals => "Expected '=' after a key in a key/value pair"
  | .missingTableEnd => "Expected ']' at the end of a table declaration"
  | .missingArrayEnd => "Expected ']]' at the end of an array declaration"
  | .declaredTwice key => s!"Cannot declare {Key.text key} twice"
  | .immutable key => s!"Cannot mutate immutable namespace {Key.text key}"
  | .redefined key => s!"Cannot redefine namespace {Key.text key}"
  | .duplicateKey part => s!"Duplicate inline table key {quoted part}"
  | .overwritten => "Cannot overwrite a value"
  | .invalidValue => "Invalid value"
  | .invalidMoment => "Invalid date or datetime"
  | .unclosedArray => "Unclosed array"
  | .unclosedTable => "Unclosed inline table"
  | .unterminatedString => "Unterminated string"
  | .illegalCharacter c => s!"Illegal character {String.ofList (quote [c])}"
  | .strayBackslash => "Unescaped '\\' in a string"
  | .invalidHexValue => "Invalid hex value"
  | .notScalarValue => "Escaped character is not a Unicode scalar value"
  | .expected text => s!"Expected {quoted text}"
  | .invalidCharacter c => s!"Found invalid character {String.ofList (quote [c])}"

/-- Why reading stops before the end. -/
inductive Failure where
  /-- A fault, with `left` characters left at its place. -/
  | fault (fault : Fault) (left : Nat)
  | crash (c : Crash)
  deriving DecidableEq, Repr

/-- An error in a document: the fault, and line and column of its place unless that is the end. -/
structure Error where
  fault : Fault
  place : Option (Nat × Nat)
  deriving DecidableEq, Repr

/-- The error that a fault in the document `source` is, with `left` characters left at its place. -/
def Fault.inDocument (f : Fault) (left : Nat) (source : List Char) : Error :=
  let before := source.take (source.length - left)
  let column := (before.reverse.takeWhile (· ≠ '\n')).length + 1
  ⟨f, if left = 0 then none else some (before.count '\n' + 1, column)⟩

/-- The wording of an error. -/
def Error.message (e : Error) : String :=
  match e.place with
  | none => s!"{e.fault.message} (at end of document)"
  | some (line, column) => s!"{e.fault.message} (at line {line}, column {column})"

/-- Why a document denotes no table. -/
inductive Unread where
  | malformed (e : Error)
  | crash (c : Crash)
  deriving DecidableEq, Repr

/-- What a failure in the document `source` makes of it. -/
def Failure.inDocument (source : List Char) : Failure → Unread
  | .fault f left => .malformed (f.inDocument left source)
  | .crash c => .crash c

end Highlight.Toml
