import Highlight.CommandLine.Options
import Highlight.Dump
import Highlight.Style.Render
import Highlight.Style.ThemeFile

/-!
# Running the program

A run reads the input, renders it, and writes the result to a file or to the standard output.  What it
does depends on nothing but the arguments, the standard input and the files.  The standard streams hold
UTF-8.

Errors of the settings end a run with 2 and errors of the input, the grammar or the theme with 1.  A run
that cannot read or decode its configuration, cannot write its output or crashes breaks off.
-/

namespace Highlight.CommandLine

open Text

/-! ## Rendering -/

/-- Why there is nothing to write. -/
inductive RenderError where
  | grammar (e : GrammarError)
  | theme (e : ThemeError)
  /-- The input or the theme file is no text. -/
  | undecodable (e : Utf8Error)
  /-- The input cannot be read, or it cannot be found out whether a theme file is meant. -/
  | unreadable (e : FileError)
  | options (e : OptionsError)
  | crash (c : Crash)
  deriving DecidableEq, Repr

/-- What it means for rendering that the input is not read. -/
def RenderError.ofFile : FileFailure → RenderError
  | .error e => .unreadable e
  | .crash c => .crash c

/-- What it means for rendering that there is no theme. -/
def RenderError.ofTheme : ThemeFileError → RenderError
  | .theme e => .theme e
  | .undecodable e => .undecodable e
  | .file e => .unreadable e
  | .crash c => .crash c

/-- A text to write, and the lines for the error output before it. -/
structure Rendered where
  text : List Char
  log : String

/-- The bytes of the input. -/
def Options.inputBytes (o : Options) (fs : Files) (stdin : List UInt8) :
    Except RenderError (List UInt8) :=
  match o.input with
  | none => .ok stdin
  | some p => (fs.read p).mapError .ofFile

/-- The text of the input, with line feeds as the only line ends. -/
def Options.source (o : Options) (fs : Files) (stdin : List UInt8) :
    Except RenderError (List Char) := do
  let bytes ← o.inputBytes fs stdin
  let text ← (decodeUtf8 bytes).mapError .undecodable
  return unifyLineEnds text

/-- The theme of a run. -/
def Options.resolveTheme (stack : Stack) (o : Options) (fs : Files) : Except RenderError Theme :=
  (Theme.resolve stack fs o.theme).mapError .ofTheme

/-- What a run with debugging says about the tokens of a source. -/
def tokenLog (g : Grammar) (source : List Char) (raw shown : List Token) : String :=
  s!"lexlight.lexer: {g.name}: {raw.length} raw tokens from {source.length} chars\n" ++
    String.ofList (dump shown)

/-- The input in markup. -/
def Options.render (stack : Stack) (o : Options) (r : Registry) (fs : Files) (stdin : List UInt8) :
    Except RenderError Rendered := do
  let source ← o.source fs stdin
  let name ← (o.grammarName r).mapError .options
  let theme ← o.resolveTheme stack fs
  let g ← (r.get name).mapError .grammar
  let raw ← (rawTokens g source).mapError .grammar
  let shown := if o.combined then combine raw else raw
  return {
    text := Highlight.render shown theme o.markup
    log := if o.debug then tokenLog g source raw shown else "" }

/-! ## Results -/

/-- An error that breaks a run off. -/
inductive Break where
  | undecodable (e : Utf8Error)
  | file (e : FileError)
  | options (e : OptionsError)
  | crash (c : Crash)
  deriving DecidableEq, Repr

/-- How a file breaks a run off. -/
def Break.ofFile : FileFailure → Break
  | .error e => .file e
  | .crash c => .crash c

/-- What a run, or a part of one, has done: how it ended, what it wrote to both outputs, and the files
after it. -/
structure Effect where
  exit : Except Break Nat
  stdout : List Char := []
  stderr : String := ""
  files : Files

/-- The effect of writing a text to the output. -/
def Options.deliver (o : Options) (fs : Files) (text : List Char) : Effect :=
  match o.output with
  | none => { exit := .ok 0, stdout := text, files := fs }
  | some p =>
    match fs.write p (encodeUtf8 text) with
    | .ok files => { exit := .ok 0, files }
    | .error e => { exit := .error (.ofFile e), files := fs }

/-- What is said about a text that cannot be decoded. -/
def undecodableReport (input : Option Path) (e : Utf8Error) : String :=
  let name := (input.map (·.toString)).getD "<stdin>"
  s!"error: cannot decode {name} as UTF-8: {e.fault.message} at byte {e.start}"

/-- What is said about an input that cannot be read. -/
def unreadableReport (input : Option Path) (e : FileError) : String :=
  let name := (input.map (·.toString)).getD "None"
  s!"error: cannot read {name}: {e.fault.reason}"

/-- An effect with a text before what it says on the error output. -/
def Effect.after (log : String) (e : Effect) : Effect := { e with stderr := log ++ e.stderr }

/-- One rendering of the input. -/
def Options.runOnce (stack : Stack) (o : Options) (r : Registry) (fs : Files) (stdin : List UInt8) :
    Effect :=
  let fail (message : String) : Effect := { exit := .ok 1, stderr := message ++ "\n", files := fs }
  match o.render stack r fs stdin with
  | .ok rendered => (o.deliver fs rendered.text).after rendered.log
  | .error (.grammar e) => fail e.report
  | .error (.theme e) => fail e.report
  | .error (.undecodable e) => fail (undecodableReport o.input e)
  | .error (.unreadable e) => fail (unreadableReport o.input e)
  | .error (.options e) => { exit := .error (.options e), files := fs }
  | .error (.crash c) => { exit := .error (.crash c), files := fs }

/-! ## Starting -/

/-- The stacks of a run: the one on which it reads the configuration and merges the settings, and the one
on which it loads a theme. -/
structure Stacks where
  config : Stack
  theme : Stack

/-- Both stacks have room for `n` calls. -/
def Stacks.ofCalls (n : Nat) : Stacks := { config := .ofCalls n, theme := .ofCalls n }

/-- What the arguments ask for. -/
inductive Request where
  /-- Nothing is left to do. -/
  | done (e : Effect)
  | once (log : String) (o : Options)
  | watch (log : String) (o : Options) (input : Path)

/-- The lists of what is built in. -/
def availableText (r : Registry) : String :=
  let line (title : String) (names : List String) : String :=
    let known := ", ".intercalate names
    s!"{title}: {known}\n"
  line "grammars" r.names ++ line "themes" (Theme.builtin.map (·.name)) ++
    line "markups" Markup.names

/-- The settings that arguments and configuration give, and the lines for the error output. -/
def Arguments.resolve (stack : Stack) (a : Arguments) (fs : Files) :
    Except ConfigError (String × Except SettingsFailure Options) := do
  match ← loadConfig stack fs a.configPath with
  | none => return ("", a.options stack.showing [])
  | some config =>
    let log := if a.debug then s!"lexlight.cli: loaded config from {a.configPath.toString}\n" else ""
    return (log, a.options stack.showing config)

/-- Reads the arguments and the configuration. -/
def request (stack : Stack) (argv : List String) (r : Registry) (fs : Files) : Request :=
  let stop (code : Nat) (stdout : String) (stderr : String) : Request :=
    .done { exit := .ok code, stdout := stdout.toList, stderr, files := fs }
  let breakOff (b : Break) (stderr : String) : Request := .done { exit := .error b, stderr, files := fs }
  match Arguments.ofList argv with
  | .error .help => stop 0 help ""
  | .error (.error e) => stop 2 "" e.report
  | .ok a =>
    if a.list then stop 0 (availableText r) ""
    else match a.resolve stack fs with
      | .error (.toml e) => stop 2 "" s!"error: invalid config file: {e.message}\n"
      | .error (.undecodable e) => breakOff (.undecodable e) ""
      | .error (.file e) => breakOff (.file e) ""
      | .error (.crash c) => breakOff (.crash c) ""
      | .ok (log, .error (.invalid e)) => stop 2 "" s!"{log}error: {e.message}\n"
      | .ok (log, .error (.crash c)) => breakOff (.crash c) log
      | .ok (log, .ok o) =>
        match o.grammarName r with
        | .error e => stop 2 "" s!"{log}error: {e.message}\n"
        | .ok _ =>
          if !o.watch then .once log o
          else match o.input with
            | none => stop 2 "" s!"{log}error: --watch needs an input file\n"
            | some input => .watch log o input

end Highlight.CommandLine
