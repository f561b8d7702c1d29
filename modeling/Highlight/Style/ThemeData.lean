import Highlight.Path
import Highlight.Style.Theme
import Highlight.Text.LetterCase
import Highlight.Toml.Reader

/-!
# Themes from data

A theme is given as a table with a name and a list of rules, each of which is a table with a tag, a color
and the flags for italics and bold type.  The rules are checked one after the other, and the first thing
wrong is the error.  The name is not checked: whatever stands there is turned into a text, which may
crash.
-/

namespace Highlight

open Text

/-- Why there is no such theme. -/
inductive ThemeFault where
  | unknownTheme (name : String) (available : List String)
  | rulesNotArray
  | ruleNotTable (index : Nat)
  | missingTag (index : Nat)
  | missingColor (index : Nat) (tag : String)
  | badColor (index : Nat) (tag : String) (error : ColorError)
  | flagsNotBoolean (index : Nat) (tag : String)
  | unreadableFile (reason : String)
  | invalidFile (error : Toml.Error)
  deriving DecidableEq, Repr

/-- The wording of a fault. -/
def ThemeFault.message : ThemeFault → String
  | .unknownTheme name available =>
    let known := ", ".intercalate available
    s!"unknown theme '{name}' (available: {known})"
  | .rulesNotArray => "'rule' must be an array of tables"
  | .ruleNotTable i => s!"rule {i} is not a table"
  | .missingTag i => s!"rule {i} needs a 'type' string"
  | .missingColor i tag => s!"rule {i} ({tag}) needs a 'color' string"
  | .badColor i tag e => s!"rule {i} ({tag}): {e.message}"
  | .flagsNotBoolean i tag => s!"rule {i} ({tag}): 'italic' and 'bold' must be booleans"
  | .unreadableFile reason => s!"cannot read theme file: {reason}"
  | .invalidFile e => s!"invalid theme file: {e.message}"

/-- A fault and the file it lies in. -/
structure ThemeError where
  fault : ThemeFault
  path : Option Path := none
  deriving DecidableEq, Repr

/-- The report of a message about a theme, with the file where one is known. -/
def themeReport (message : String) (path : Option Path) : String :=
  match path with
  | none => s!"error: {message}"
  | some path => s!"error: {message}\n  --> {path.toString}"

/-- The report of an error. -/
def ThemeError.report (e : ThemeError) : String := themeReport e.fault.message e.path

/-- Why data gives no theme. -/
inductive ThemeFailure where
  | theme (e : ThemeError)
  | crash (c : Crash)
  deriving DecidableEq, Repr

namespace Theme

/-- The built-in theme of a name in any case. -/
def named (name : String) : Except ThemeError Theme :=
  match builtin.find? (·.name = lower name) with
  | some t => .ok t
  | none => .error ⟨.unknownTheme name (builtin.map (·.name)), none⟩

/-- A flag of a rule; one that is absent is not set. -/
def flag? (data : Table Value) (key : String) : Option Bool :=
  match data.get? key with
  | none => some false
  | some (.bool b) => some b
  | some _ => none

/-- A rule from data; `index` counts the rules from 1. -/
def ruleOfData (index : Nat) : Value → Except ThemeFault ThemeRule
  | .table data =>
    match Table.get? "type" data with
    | some (.string tag) =>
      if tag = "" then .error (.missingTag index)
      else match Table.get? "color" data with
        | some (.string text) =>
          match Color.ofHex text.toList with
          | .error e => .error (.badColor index tag e)
          | .ok color =>
            match flag? data "italic", flag? data "bold" with
            | some italic, some bold => .ok { tag, color, italic, bold }
            | _, _ => .error (.flagsNotBoolean index tag)
        | _ => .error (.missingColor index tag)
    | _ => .error (.missingTag index)
  | _ => .error (.ruleNotTable index)

/-- The rules from data, the first of which has the given index. -/
def rulesOfData : (index : Nat) → List Value → Except ThemeFault (List ThemeRule)
  | _, [] => .ok []
  | index, v :: vs => do
    let rule ← ruleOfData index v
    let rules ← rulesOfData (index + 1) vs
    return rule :: rules

/-- The name that data gives a theme; `name` if it gives none. -/
def nameOfData (room : Nat) (data : Table Value) (name : String) : Except Crash String :=
  match data.get? "name" with
  | none => .ok name
  | some v => v.text room

/-- The theme that data denotes, where the stack has room for `room` calls; `name` is its name if the data
has none. -/
def ofData (room : Nat) (data : Table Value) (name : String) (path : Option Path := none) :
    Except ThemeFailure Theme :=
  let rules : Except ThemeFault (List ThemeRule) := match data.get? "rule" with
    | none => .ok []
    | some (.array items) => rulesOfData 1 items
    | some _ => .error .rulesNotArray
  match rules with
  | .error fault => .error (.theme ⟨fault, path⟩)
  | .ok rules =>
    match nameOfData room data name with
    | .error c => .error (.crash c)
    | .ok name => .ok ⟨name, rules⟩

end Theme

end Highlight
