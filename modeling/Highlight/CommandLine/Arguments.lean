import Highlight.Style.Markup
import Highlight.Text.DecimalDigit
import Highlight.Text.Quoted

/-!
# Command line arguments

Arguments are options, given by a short or a long name, and one input.  A long name may be shortened as
long as it stays unique; a value may follow in the next argument, after an equals sign, or right after a
short name.  After two hyphens everything is input.

Arguments are first told apart one by one (`Word`) and then taken from left to right.  The option for help
stops at once, any error stops with the usage text, and arguments that are left over are an error at the
end.
-/

namespace Highlight.CommandLine

open Text

/-! ## Options -/

/-- The options. -/
inductive Switch where
  | help
  | output
  | grammar
  | theme
  | markup
  | config
  | noCombine
  | list
  | watch
  | debug
  deriving DecidableEq, Repr

namespace Switch

/-- All options, in the order in which the usage text lists them. -/
def all : List Switch :=
  [.help, .output, .grammar, .theme, .markup, .config, .noCombine, .list, .watch, .debug]

/-- The names of an option, the short one first. -/
def names : Switch → List String
  | .help => ["-h", "--help"]
  | .output => ["-o", "--output"]
  | .grammar => ["-g", "--grammar"]
  | .theme => ["-t", "--theme"]
  | .markup => ["-m", "--markup"]
  | .config => ["--config"]
  | .noCombine => ["--no-combine"]
  | .list => ["--list"]
  | .watch => ["--watch"]
  | .debug => ["--debug"]

/-- Whether an option has a value. -/
def takesValue : Switch → Bool
  | .output | .grammar | .theme | .markup | .config => true
  | .help | .noCombine | .list | .watch | .debug => false

/-- Every name with its option. -/
def table : List (String × Switch) := all.flatMap fun s => s.names.map fun n => (n, s)

/-- The option of a name. -/
def named? (name : String) : Option Switch := table.lookup name

end Switch

/-! ## Errors -/

/-- What is wrong with the arguments. -/
inductive ArgumentsError where
  | ambiguous (text : String) (names : List String)
  | missingValue (s : Switch)
  | ignoredValue (s : Switch) (value : String)
  | unknownMarkup (value : String)
  | unrecognized (words : List String)
  deriving DecidableEq, Repr

/-- A message about an option. -/
def Switch.blame (s : Switch) (message : String) : String :=
  let names := "/".intercalate s.names
  s!"argument {names}: {message}"

/-- The wording of an error. -/
def ArgumentsError.message : ArgumentsError → String
  | .ambiguous text names =>
    let known := ", ".intercalate names
    s!"ambiguous option: {text} could match {known}"
  | .missingValue s => s.blame "expected one argument"
  | .ignoredValue s value => s.blame s!"ignored explicit argument {quoted value}"
  | .unknownMarkup value =>
    let known := ", ".intercalate (Markup.names.map quoted)
    Switch.markup.blame s!"invalid choice: {quoted value} (choose from {known})"
  | .unrecognized words =>
    let words := " ".intercalate words
    s!"unrecognized arguments: {words}"

/-- Why the arguments are not taken. -/
inductive Stop where
  | help
  | error (e : ArgumentsError)
  deriving DecidableEq, Repr

/-! ## Words -/

/-- A value in the same argument as its option. -/
structure Attached where
  value : String
  /-- An equals sign stands between the two. -/
  byEquals : Bool
  deriving DecidableEq, Repr

/-- An argument on its own. -/
inductive Word where
  | plain (text : String)
  /-- Two hyphens. -/
  | separator
  /-- An option by a name that is spelled out. -/
  | switch (s : Switch) (name : String) (attached : Option Attached)
  | unknown (text : String)
  deriving DecidableEq, Repr

/-- Whether a text is a hyphen and a number; a line feed may follow. -/
def isNegativeNumber (cs : List Char) : Bool :=
  match cs with
  | '-' :: rest =>
    let rest := if rest.getLast? = some '\n' then rest.dropLast else rest
    let isDigit (c : Char) := (decimalValue? c).isSome
    match rest.dropWhile isDigit with
    | [] => !rest.isEmpty
    | '.' :: part => !part.isEmpty && part.all isDigit
    | _ => false
  | _ => false

/-- A text before and after its first equals sign, if it has one. -/
def splitEquals (cs : List Char) : List Char × Option (List Char) :=
  match cs.dropWhile (· ≠ '=') with
  | [] => (cs, none)
  | _ :: value => (cs.takeWhile (· ≠ '='), some value)

/-- The options that an argument may mean when it is no full name: those whose long name begins with it,
or the one whose short name it begins with. -/
def candidates (text : String) : List Word :=
  match text.toList with
  | '-' :: '-' :: _ =>
    let (start, value) := splitEquals text.toList
    let attached := value.map fun v => ⟨String.ofList v, true⟩
    (Switch.table.filter fun e => start.isPrefixOf e.1.toList).map fun e => .switch e.2 e.1 attached
  | '-' :: c :: value =>
    let name := String.ofList ['-', c]
    (Switch.named? name).toList.map fun s => .switch s name (some ⟨String.ofList value, false⟩)
  | _ => []

/-- The names of the options among words. -/
def switchNames (words : List Word) : List String :=
  words.filterMap fun
    | .switch _ name _ => some name
    | _ => none

/-- What an argument before the two hyphens is. -/
def Word.ofText (text : String) : Except ArgumentsError Word :=
  let cs := text.toList
  if cs.head? ≠ some '-' then .ok (.plain text)
  else match Switch.named? text with
    | some s => .ok (.switch s text none)
    | none =>
      if cs.length = 1 then .ok (.plain text)
      else
        let (name, value) := splitEquals cs
        let name := String.ofList name
        match value, Switch.named? name with
        | some v, some s => .ok (.switch s name (some ⟨String.ofList v, true⟩))
        | _, _ =>
          match candidates text with
          | [word] => .ok word
          | [] =>
            if isNegativeNumber cs || cs.contains ' ' then .ok (.plain text)
            else .ok (.unknown text)
          | words => .error (.ambiguous text (switchNames words))

/-- The words of the arguments. -/
def words : List String → Except ArgumentsError (List Word)
  | [] => .ok []
  | text :: rest =>
    if text = "--" then .ok (.separator :: rest.map .plain)
    else do
      let word ← Word.ofText text
      return word :: (← words rest)

/-! ## Taking the words -/

/-- The arguments, as they were given. -/
structure Arguments where
  /-- The input; a hyphen is the standard input. -/
  input : String := "-"
  output : Option String := none
  grammar : Option String := none
  theme : Option String := none
  markup : Option String := none
  config : Option String := none
  noCombine : Bool := false
  list : Bool := false
  watch : Bool := false
  debug : Bool := false
  deriving DecidableEq, Repr

/-- The arguments taken so far. -/
structure Taken where
  args : Arguments := {}
  /-- The input has been given. -/
  hasInput : Bool := false
  /-- The arguments left over, the latest first. -/
  extras : List String := []

/-- The arguments with an option without a value. -/
def Arguments.set (a : Arguments) : Switch → Except Stop Arguments
  | .help => .error .help
  | .noCombine => .ok { a with noCombine := true }
  | .list => .ok { a with list := true }
  | .watch => .ok { a with watch := true }
  | .debug => .ok { a with debug := true }
  | _ => .ok a

/-- The arguments with the value of an option. -/
def Arguments.setValue (a : Arguments) (s : Switch) (value : String) : Except Stop Arguments :=
  match s with
  | .output => .ok { a with output := some value }
  | .grammar => .ok { a with grammar := some value }
  | .theme => .ok { a with theme := some value }
  | .config => .ok { a with config := some value }
  | .markup =>
    if value ∈ Markup.names then .ok { a with markup := some value }
    else .error (.error (.unknownMarkup value))
  | _ => .ok a

/-- Whether the next word can be a value. -/
def valueNext : List Word → Bool
  | .plain _ :: _ => true
  | _ => false

/-- What stops at letters right after the short option for help, each of which may be a short option
too; `rest` are the words after the argument. -/
def helpWith (rest : List Word) : List Char → Stop
  | [] => .help
  | '-' :: cs => .error (.ignoredValue .help (String.ofList ('-' :: cs)))
  | c :: cs =>
    match Switch.named? (String.ofList ['-', c]) with
    | none => .help
    | some s =>
      if s.takesValue then
        if cs.isEmpty && !valueNext rest then .error (.missingValue s) else .help
      else match cs with
        | '=' :: value => .error (.ignoredValue .help (String.ofList value))
        | cs => helpWith rest cs

/-- Takes an option with a value attached to it. -/
def takeAttached (t : Taken) (s : Switch) (name : String) (v : Attached) (rest : List Word) :
    Except Stop Taken :=
  if s.takesValue then do
    return { t with args := ← t.args.setValue s v.value }
  else if name.toList[1]? ≠ some '-' && v.value ≠ "" && !v.byEquals then
    .error (helpWith rest v.value.toList)
  else .error (.error (.ignoredValue s v.value))

/-- Takes words from left to right. -/
def take (t : Taken) : List Word → Except Stop Taken
  | [] => .ok t
  | .unknown text :: rest => take { t with extras := text :: t.extras } rest
  | .separator :: .plain text :: rest =>
    if t.hasInput then take { t with extras := text :: "--" :: t.extras } rest
    else take { t with args.input := text, hasInput := true } rest
  | .separator :: rest =>
    if t.hasInput then take { t with extras := "--" :: t.extras } rest
    else take { t with hasInput := true } rest
  | .plain text :: .separator :: rest =>
    if t.hasInput then take { t with extras := "--" :: text :: t.extras } rest
    else take { t with args.input := text, hasInput := true } rest
  | .plain text :: rest =>
    if t.hasInput then take { t with extras := text :: t.extras } rest
    else take { t with args.input := text, hasInput := true } rest
  | .switch s name (some v) :: rest => do take (← takeAttached t s name v rest) rest
  | .switch s _ none :: .plain value :: rest =>
    if s.takesValue then do take { t with args := ← t.args.setValue s value } rest
    else do take { t with args := ← t.args.set s } (.plain value :: rest)
  | .switch s _ none :: rest =>
    if s.takesValue then .error (.error (.missingValue s))
    else do take { t with args := ← t.args.set s } rest
termination_by ws => ws.length

/-- The arguments of a command line. -/
def Arguments.ofList (argv : List String) : Except Stop Arguments :=
  match words argv with
  | .error e => .error (.error e)
  | .ok ws => do
    let t ← take {} ws
    if t.extras.isEmpty then return t.args
    else throw (.error (.unrecognized t.extras.reverse))

/-! ## Usage -/

/-- The lines that sum up the arguments. -/
def usage : String :=
  "usage: lexlight [-h] [-o OUTPUT] [-g GRAMMAR] [-t THEME] [-m \x7bhtml,rich-text\x7d]\n" ++
  "                [--config FILE] [--no-combine] [--list] [--watch] [--debug]\n" ++
  "                [input]\n"

/-- The text for help. -/
def help : String :=
  usage ++ "\n" ++
  "Tokenize source text and render it as highlighted markup\n" ++
  "\n" ++
  "positional arguments:\n" ++
  "  input                 Input file (default: stdin)\n" ++
  "\n" ++
  "options:\n" ++
  "  -h, --help            show this help message and exit\n" ++
  "  -o OUTPUT, --output OUTPUT\n" ++
  "                        Output file (default: stdout)\n" ++
  "  -g GRAMMAR, --grammar GRAMMAR\n" ++
  "                        Grammar name (default: from file extension)\n" ++
  "  -t THEME, --theme THEME\n" ++
  "                        Built-in theme name or theme .toml file\n" ++
  "  -m \x7bhtml,rich-text\x7d, --markup \x7bhtml,rich-text\x7d\n" ++
  "                        Output markup (default: rich-text)\n" ++
  "  --config FILE         Config file (default: auto-discover lexlight.toml)\n" ++
  "  --no-combine          Keep raw tokens instead of merging runs of equal types\n" ++
  "  --list                List grammars, themes and markups\n" ++
  "  --watch               Watch for changes and re-render\n" ++
  "  --debug               Dump tokens and debug logs to stderr\n"

/-- The usage and the error, for the error output. -/
def ArgumentsError.report (e : ArgumentsError) : String :=
  s!"{usage}lexlight: error: {e.message}\n"

end Highlight.CommandLine
