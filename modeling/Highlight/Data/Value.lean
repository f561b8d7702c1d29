import Highlight.Crash
import Highlight.Data.Binary64
import Highlight.Data.Moment
import Highlight.Table
import Highlight.Text.Quoted

/-!
# Data values

The values that configuration files and theme data are made of, and the text that stands for a value in
a message: strings inside other values are quoted, lists are in brackets and tables in braces.

Not every value has a text.  An integer of more than `digitLimit` digits has none, nor has a value that
holds one, and showing a value takes a call for every level of its nesting.
-/

namespace Highlight

open Text

/-- A value of structured data. -/
inductive Value where
  | null
  | bool (b : Bool)
  | integer (n : Int)
  | decimal (x : Decimal)
  | string (s : String)
  | moment (m : Moment)
  | array (items : List Value)
  | table (entries : List (String × Value))

instance : Inhabited Value := ⟨.null⟩

/-- The least natural number with too many digits to be shown. -/
def tooLarge : Nat := Nat.pow 10 digitLimit

namespace Value

/-- The digits of an integer. -/
def integerText (n : Int) : Except Crash String :=
  if tooLarge ≤ n.natAbs then .error .largeInteger else .ok (toString n)

/-- The text of a key. -/
def keyShown (room : Nat) (key : String) : Except Crash String :=
  if room = 0 then .error .deepValue else .ok (quoted key)

mutual

/-- The text of a value inside another, where the stack has room for `room` calls. -/
def shown : (room : Nat) → Value → Except Crash String
  | 0, _ => .error .deepValue
  | room + 1, v => match v with
    | .null => .ok "None"
    | .bool true => .ok "True"
    | .bool false => .ok "False"
    | .integer n => integerText n
    | .decimal x => .ok x.text
    | .string s => .ok (quoted s)
    | .moment m => if m.nesting ≤ room + 1 then .ok m.call else .error .deepValue
    | .array items => do
      let texts ← shownItems room items
      return "[" ++ ", ".intercalate texts ++ "]"
    | .table entries => do
      let texts ← shownEntries room entries
      return "\x7b" ++ ", ".intercalate texts ++ "\x7d"

/-- The texts of list items. -/
def shownItems (room : Nat) : List Value → Except Crash (List String)
  | [] => .ok []
  | v :: vs => do
    let text ← v.shown room
    let texts ← shownItems room vs
    return text :: texts

/-- The texts of table entries.  A key is shown before its value. -/
def shownEntries (room : Nat) : List (String × Value) → Except Crash (List String)
  | [] => .ok []
  | (k, v) :: rest => do
    let key ← keyShown room k
    let text ← v.shown room
    let texts ← shownEntries room rest
    return (key ++ ": " ++ text) :: texts

end

/-- The text of a value on its own. -/
def text (room : Nat) : Value → Except Crash String
  | .string s => .ok s
  | .moment m => .ok m.text
  | v => v.shown room

end Value

end Highlight
