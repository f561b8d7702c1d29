import Highlight.CommandLine.Arguments
import Highlight.Files
import Highlight.Grammar.Registry
import Highlight.Toml.Reader

/-!
# Options

The settings of a run come from the arguments and from a configuration file, which lies beside the input
unless the arguments name another.  The arguments win over the file.  Theme files in the file are seen
from its directory.

A setting of the wrong kind is an error.  Settings whose values are shown, the markup in its error and the
grammars of extensions, may crash.
-/

namespace Highlight.CommandLine

open Text

/-- The name of the configuration file that is looked for. -/
def configName : String := "lexlight.toml"

/-- The settings of a run. -/
structure Options where
  /-- The input file; none is the standard input. -/
  input : Option Path
  output : Option Path
  grammar : Option String
  /-- The name of a theme, or the path of a theme file. -/
  theme : Option String
  markup : Markup
  combined : Bool
  extensions : Table String
  watch : Bool
  debug : Bool

/-- What is wrong with the settings. -/
inductive OptionsError where
  | grammarNotString
  | themeNotString
  | unknownMarkup (shown : String)
  | combineNotBoolean
  | noGrammar
  deriving DecidableEq, Repr

/-- The wording of an error. -/
def OptionsError.message : OptionsError → String
  | .grammarNotString => "config 'grammar' must be a string"
  | .themeNotString => "config 'theme' must be a string"
  | .unknownMarkup shown =>
    let known := ", ".intercalate Markup.names
    s!"unknown markup {shown} (available: {known})"
  | .combineNotBoolean => "config 'combine' must be true or false"
  | .noGrammar => "cannot determine grammar; pass --grammar"

/-- Why there are no settings. -/
inductive SettingsFailure where
  | invalid (e : OptionsError)
  | crash (c : Crash)
  deriving DecidableEq, Repr

/-! ## The configuration file -/

/-- Why there is no configuration. -/
inductive ConfigError where
  | toml (e : Toml.Error)
  | undecodable (e : Utf8Error)
  | file (e : FileError)
  | crash (c : Crash)
  deriving DecidableEq, Repr

/-- The input file that the arguments name. -/
def Arguments.inputPath (a : Arguments) : Option Path :=
  if a.input = "-" then none else some (.ofString a.input)

/-- A value of an argument that is not empty. -/
def given (value : Option String) : Option String := value.filter (· ≠ "")

/-- The directory that the input file lies in. -/
def Arguments.inputDirectory (a : Arguments) : Path :=
  match a.inputPath with
  | none => .here
  | some p => p.parent

/-- The path of the configuration file. -/
def Arguments.configPath (a : Arguments) : Path :=
  match given a.config with
  | some p => .ofString p
  | none => a.inputDirectory.join (.ofString configName)

/-- The directory that paths in the configuration file are seen from. -/
def Arguments.configDirectory (a : Arguments) : Path :=
  match given a.config with
  | some p => (Path.ofString p).parent
  | none => a.inputDirectory

/-- The configuration, if its file is there. -/
def loadConfig (stack : Stack) (fs : Files) (path : Path) : Except ConfigError (Option (Table Value)) :=
  match fs.isFile path with
  | .error e => .error (.file e)
  | .ok false => .ok none
  | .ok true =>
    match fs.read path with
    | .error (.error e) => .error (.file e)
    | .error (.crash c) => .error (.crash c)
    | .ok bytes =>
      match decodeUtf8 bytes with
      | .error e => .error (.undecodable e)
      | .ok text =>
        match Toml.read stack text with
        | .error (.malformed e) => .error (.toml e)
        | .error (.crash c) => .error (.crash c)
        | .ok config => .ok (some config)

/-! ## Merging -/

/-- The string under a key, if there is one; a value of another kind is an error. -/
def stringSetting (config : Table Value) (key : String) (e : OptionsError) :
    Except SettingsFailure (Option String) :=
  match config.get? key with
  | none | some .null => .ok none
  | some (.string s) => .ok (some s)
  | some _ => .error (.invalid e)

/-- A theme that the configuration names, where the path of a file is seen from a directory. -/
def themeFrom (directory : Path) (theme : String) : String :=
  if ".toml".toList.isSuffixOf theme.toList then (directory.join (.ofString theme)).toString
  else theme

/-- The failure that a value is in place of a markup. -/
def markupFailure (room : Nat) (value : Value) : SettingsFailure :=
  match value.shown room with
  | .ok text => .invalid (.unknownMarkup text)
  | .error c => .crash c

/-- The markup to use. -/
def markupSetting (room : Nat) (a : Arguments) (config : Table Value) : Except SettingsFailure Markup :=
  let value := match given a.markup with
    | some name => Value.string name
    | none => (config.get? "markup").getD (.string Markup.richText.name)
  match value with
  | .string name =>
    match Markup.named name with
    | .ok m => .ok m
    | .error _ => .error (markupFailure room value)
  | value => .error (markupFailure room value)

/-- Whether tokens are to be merged. -/
def combineSetting (config : Table Value) : Except SettingsFailure Bool :=
  match config.get? "combine" with
  | none => .ok true
  | some (.bool b) => .ok b
  | some _ => .error (.invalid .combineNotBoolean)

/-- The texts of entries. -/
def entryTexts (room : Nat) : List (String × Value) → Except Crash (Table String)
  | [] => .ok []
  | (k, v) :: rest =>
    match v.text room with
    | .error c => .error c
    | .ok text => (entryTexts room rest).map ((k, text) :: ·)

/-- The extensions that the configuration gives grammars to. -/
def extensionSettings (room : Nat) (config : Table Value) : Except SettingsFailure (Table String) :=
  match config.get? "extensions" with
  | some (.table entries) => (entryTexts room entries).mapError .crash
  | _ => .ok []

/-- The settings from the arguments and the configuration, where the stack has room for `room` calls. -/
def Arguments.options (room : Nat) (a : Arguments) (config : Table Value) :
    Except SettingsFailure Options := do
  let grammar ← stringSetting config "grammar" .grammarNotString
  let theme ← stringSetting config "theme" .themeNotString
  let markup ← markupSetting room a config
  let combined ← combineSetting config
  let extensions ← extensionSettings room config
  return {
    input := a.inputPath
    output := (given a.output).map .ofString
    grammar := (given a.grammar).or grammar
    theme := (given a.theme).or (theme.map (themeFrom a.configDirectory))
    markup
    combined := combined && !a.noCombine
    extensions
    watch := a.watch
    debug := a.debug }

/-- The name of the grammar: the one set, else that of the extension of the input file. -/
def Options.grammarName (o : Options) (r : Registry) : Except OptionsError String :=
  match given o.grammar with
  | some name => .ok name
  | none =>
    match o.input.bind fun p => r.nameForPath? p o.extensions with
    | some name => .ok name
    | none => .error .noGrammar

end Highlight.CommandLine
