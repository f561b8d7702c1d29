import Highlight.Grammar.Json
import Highlight.Grammar.Lua
import Highlight.Path
import Highlight.Table
import Highlight.Text.LetterCase

/-!
# The registry of grammars

Grammars are found by name, by alias and by the extension of a file.  Names, aliases and extensions are
compared in lower case; an alias is looked up before the names.
-/

namespace Highlight

open Text

/-- Strings in the order of their code points. -/
def sortStrings (l : List String) : List String := l.mergeSort fun s t => decide (s ≤ t)

/-- The grammars known. -/
structure Registry where
  grammars : Table Grammar := []
  /-- The names that aliases stand for. -/
  aliases : Table String := []
  /-- The names of the grammars of file extensions. -/
  extensions : Table String := []

/-- An extension in lower case and with its dot; the empty one stays empty. -/
def normalExtension (ext : String) : String :=
  let ext := lower ext
  if ext = "" || ext.startsWith "." then ext else "." ++ ext

namespace Registry

/-- Registers a grammar under a name, aliases and extensions, in place of what was there. -/
def register (r : Registry) (name : String) (g : Grammar) (aliases extensions : List String := []) :
    Registry :=
  let key := lower name
  { grammars := .put key g r.grammars
    aliases := aliases.foldl (fun t a => t.put (lower a) key) r.aliases
    extensions := extensions.foldl (fun t e => t.put (normalExtension e) key) r.extensions }

/-- The grammars built in. -/
def builtin : Registry :=
  ({} : Registry)
    |>.register "json" Json.grammar [] [".json"]
    |>.register "lua" Lua.grammar ["luau"] [".lua", ".luau"]

/-- The registered name that a name or alias in any case stands for. -/
def key (r : Registry) (name : String) : String :=
  let name := lower name
  (r.aliases.get? name).getD name

/-- Whether a name or alias is known. -/
def knows (r : Registry) (name : String) : Bool := (r.grammars.get? (r.key name)).isSome

/-- The registered names in order. -/
def names (r : Registry) : List String := sortStrings r.grammars.keys

/-- The grammar of a name or alias. -/
def get (r : Registry) (name : String) : Except GrammarError Grammar :=
  match r.grammars.get? (r.key name) with
  | some g => .ok g
  | none => .error (.unknownGrammar name r.names)

/-- The name of the grammar for a path, by its extension; the entries of `extra` come first, in their
order. -/
def nameForPath? (r : Registry) (path : Path) (extra : Table String := []) :
    Option String :=
  let ext := normalExtension path.suffix
  if ext = "" then none
  else match extra.find? fun e => normalExtension e.1 = ext with
    | some e => some e.2
    | none => r.extensions.get? ext

/-- The grammar for a path, if its extension has one. -/
def forPath (r : Registry) (path : Path) (extra : Table String := []) :
    Except GrammarError (Option Grammar) :=
  match r.nameForPath? path extra with
  | none => .ok none
  | some name => (r.get name).map some

end Registry

end Highlight
