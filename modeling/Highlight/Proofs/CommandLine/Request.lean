import Highlight.CommandLine.Run
import Highlight.Proofs.Files
import Highlight.Proofs.Result

/-!
# What runs ask for

A run informs, is refused, breaks off over its configuration, or starts with settings (`run_cases`).  For
each of these `request` is known, and with it what the run does, unless the run starts.

* `loadConfig_eq_error`: what a configuration fails at.
* `request_of_sets`: with settings there is nothing to do without a grammar or with nothing to watch; else
  the input is rendered once or watched.
-/

namespace Highlight.CommandLine

open Text

/-! ## The configuration -/

/-- **What a configuration fails at**: it cannot be found out whether its file is there, or it is there but
cannot be read, is no text or holds no table, or the table is beyond a limit. -/
inductive Unloaded (stack : Stack) (fs : Files) (p : Path) : ConfigError → Prop
  | unknown {e : FileError} (hfile : fs.isFile p = .error e) : Unloaded stack fs p (.file e)
  | unreadable {e : FileError} (hfile : fs.isFile p = .ok true)
      (hread : fs.read p = .error (.error e)) : Unloaded stack fs p (.file e)
  | undecodable {bytes : List UInt8} {e : Utf8Error} (hfile : fs.isFile p = .ok true)
      (hread : fs.read p = .ok bytes) (hdecode : decodeUtf8 bytes = .error e) :
      Unloaded stack fs p (.undecodable e)
  | malformed {bytes : List UInt8} {text : List Char} {e : Toml.Error} (hfile : fs.isFile p = .ok true)
      (hread : fs.read p = .ok bytes) (hdecode : decodeUtf8 bytes = .ok text)
      (htoml : Toml.read stack text = .error (.malformed e)) : Unloaded stack fs p (.toml e)
  | crash {bytes : List UInt8} {text : List Char} {c : Crash} (hfile : fs.isFile p = .ok true)
      (hread : fs.read p = .ok bytes) (hdecode : decodeUtf8 bytes = .ok text)
      (htoml : Toml.read stack text = .error (.crash c)) : Unloaded stack fs p (.crash c)

theorem loadConfig_eq_error {stack : Stack} {fs : Files} {p : Path} {e : ConfigError} :
    loadConfig stack fs p = .error e ↔ Unloaded stack fs p e := by
  constructor
  · intro h
    unfold loadConfig at h
    split at h
    · next hfile =>
      obtain rfl := Except.error.inj h
      exact .unknown hfile
    · cases h
    next hfile =>
    split at h
    · next hread =>
      obtain rfl := Except.error.inj h
      exact .unreadable hfile hread
    · next hread => exact absurd hread (Files.read_ne_crash_of_isFile hfile)
    next hread =>
    split at h
    · next hdecode =>
      obtain rfl := Except.error.inj h
      exact .undecodable hfile hread hdecode
    next hdecode =>
    split at h
    · next htoml =>
      obtain rfl := Except.error.inj h
      exact .malformed hfile hread hdecode htoml
    · next htoml =>
      obtain rfl := Except.error.inj h
      exact .crash hfile hread hdecode htoml
    · cases h
  · intro h
    cases h with
    | unknown hfile => simp only [loadConfig, hfile]
    | unreadable hfile hread => simp only [loadConfig, hfile, hread]
    | undecodable hfile hread hdecode => simp only [loadConfig, hfile, hread, hdecode]
    | malformed hfile hread hdecode htoml | crash hfile hread hdecode htoml =>
      simp only [loadConfig, hfile, hread, hdecode, htoml]

/-- The settings of arguments come from the configuration that is loaded, if any. -/
theorem resolve_eq (stack : Stack) (a : Arguments) (fs : Files) : ∃ log, a.resolve stack fs =
    (loadConfig stack fs a.configPath).map fun config =>
      (log, a.options stack.showing (config.getD [])) := by
  rw [Arguments.resolve]
  cases loadConfig stack fs a.configPath with
  | error e => exact ⟨"", rfl⟩
  | ok config => cases config <;> exact ⟨_, rfl⟩

/-! ## The settings -/

theorem named_mem_builtin {name : String} {m : Markup} (h : Markup.named name = .ok m) :
    m ∈ Markup.builtin := by
  unfold Markup.named at h
  split at h
  · next hfind =>
    obtain rfl := Except.ok.inj h
    exact List.mem_of_find?_eq_some hfind
  · cases h

/-- A markup that can be set is a built-in one. -/
theorem markup_mem_builtin {room : Nat} {a : Arguments} {config : Table Value} {m : Markup}
    (h : markupSetting room a config = .ok m) : m ∈ Markup.builtin := by
  unfold markupSetting at h
  dsimp only at h
  split at h
  · split at h
    · next hnamed =>
      obtain rfl := Except.ok.inj h
      exact named_mem_builtin hnamed
    · cases h
  · cases h

/-- What the settings take from the arguments alone; the markup is a built-in one in any case. -/
theorem of_options {room : Nat} {a : Arguments} {config : Table Value} {o : Options}
    (h : a.options room config = .ok o) : o.input = a.inputPath ∧
      o.output = (given a.output).map .ofString ∧ o.watch = a.watch ∧ o.markup ∈ Markup.builtin := by
  obtain ⟨grammar, _, h⟩ := Except.bind_eq_ok.mp h
  obtain ⟨theme, _, h⟩ := Except.bind_eq_ok.mp h
  obtain ⟨m, hmarkup, h⟩ := Except.bind_eq_ok.mp h
  obtain ⟨combined, _, h⟩ := Except.bind_eq_ok.mp h
  obtain ⟨extensions, _, h⟩ := Except.bind_eq_ok.mp h
  obtain rfl := Except.ok.inj h
  exact ⟨rfl, rfl, rfl, markup_mem_builtin hmarkup⟩

/-! ## What a run comes to -/

/-- The arguments of a run that asks for more than a list. -/
def Asks (argv : List String) (a : Arguments) : Prop :=
  Arguments.ofList argv = .ok a ∧ a.list = false

/-- The settings of a run, from its arguments and its configuration. -/
def Sets (stack : Stack) (argv : List String) (fs : Files) (o : Options) : Prop :=
  ∃ a config, Asks argv a ∧ loadConfig stack fs a.configPath = .ok config ∧
    a.options stack.showing (config.getD []) = .ok o

/-- A run that starts with its settings: there is a grammar, and an input if it is to be watched. -/
def Starts (stack : Stack) (argv : List String) (r : Registry) (fs : Files) (o : Options) : Prop :=
  Sets stack argv fs o ∧ (∃ name, o.grammarName r = .ok name) ∧ (o.watch = true → o.input ≠ none)

/-- What breaks a run off over its configuration: its file cannot be read or is no text, or the table in it
or a setting is beyond a limit. -/
inductive ConfigBreaks (stack : Stack) (argv : List String) (fs : Files) : Break → Prop
  | file {a : Arguments} {e : FileError} (hasks : Asks argv a)
      (hload : Unloaded stack fs a.configPath (.file e)) : ConfigBreaks stack argv fs (.file e)
  | undecodable {a : Arguments} {e : Utf8Error} (hasks : Asks argv a)
      (hload : Unloaded stack fs a.configPath (.undecodable e)) :
      ConfigBreaks stack argv fs (.undecodable e)
  | table {a : Arguments} {c : Crash} (hasks : Asks argv a)
      (hload : Unloaded stack fs a.configPath (.crash c)) : ConfigBreaks stack argv fs (.crash c)
  | setting {a : Arguments} {config : Option (Table Value)} {c : Crash} (hasks : Asks argv a)
      (hload : loadConfig stack fs a.configPath = .ok config)
      (hoptions : a.options stack.showing (config.getD []) = .error (.crash c)) :
      ConfigBreaks stack argv fs (.crash c)

/-- Why a run is refused. -/
inductive Refused (stack : Stack) (argv : List String) (r : Registry) (fs : Files) : Prop
  /-- The arguments are none. -/
  | usage {e : ArgumentsError} (hargs : Arguments.ofList argv = .error (.error e))
  /-- The text of the configuration file is no table. -/
  | config {a : Arguments} {e : Toml.Error} (hasks : Asks argv a)
      (hload : Unloaded stack fs a.configPath (.toml e))
  /-- A setting is of the wrong kind or unknown. -/
  | settings {a : Arguments} {config : Option (Table Value)} {e : OptionsError}
      (hasks : Asks argv a) (hload : loadConfig stack fs a.configPath = .ok config)
      (hoptions : a.options stack.showing (config.getD []) = .error (.invalid e))
  | noGrammar {o : Options} {e : OptionsError} (hsets : Sets stack argv fs o)
      (hgrammar : o.grammarName r = .error e)
  /-- The standard input cannot be watched. -/
  | noInput {o : Options} (hsets : Sets stack argv fs o) (hwatch : o.watch = true)
      (hinput : o.input = none)

/-- A run that is asked for help or for a list. -/
def Informs (argv : List String) : Prop :=
  Arguments.ofList argv = .error .help ∨ ∃ a, Arguments.ofList argv = .ok a ∧ a.list = true

/-- How a run ends whose configuration cannot be loaded. -/
def ConfigError.exit : ConfigError → Except Break Nat
  | .toml _ => .ok 2
  | .undecodable e => .error (.undecodable e)
  | .file e => .error (.file e)
  | .crash c => .error (.crash c)

/-- How a run ends that has no settings. -/
def SettingsFailure.exit : SettingsFailure → Except Break Nat
  | .invalid _ => .ok 2
  | .crash c => .error (.crash c)

section Request

variable {stack : Stack} {argv : List String} {r : Registry} {fs : Files}

/-- Every run is one of these. -/
theorem run_cases (stack : Stack) (argv : List String) (r : Registry) (fs : Files) :
    Informs argv ∨ Refused stack argv r fs ∨ (∃ b, ConfigBreaks stack argv fs b) ∨
      ∃ o, Starts stack argv r fs o := by
  cases hargs : Arguments.ofList argv with
  | error stop =>
    cases stop with
    | help => exact Or.inl (Or.inl hargs)
    | error e => exact Or.inr (Or.inl (.usage hargs))
  | ok a =>
    cases hlist : a.list with
    | true => exact Or.inl (Or.inr ⟨a, hargs, hlist⟩)
    | false =>
      have hasks : Asks argv a := ⟨hargs, hlist⟩
      refine Or.inr ?_
      cases hload : loadConfig stack fs a.configPath with
      | error e =>
        have hunloaded := loadConfig_eq_error.mp hload
        cases e with
        | toml e => exact Or.inl (.config hasks hunloaded)
        | undecodable e => exact Or.inr (Or.inl ⟨_, .undecodable hasks hunloaded⟩)
        | file e => exact Or.inr (Or.inl ⟨_, .file hasks hunloaded⟩)
        | crash c => exact Or.inr (Or.inl ⟨_, .table hasks hunloaded⟩)
      | ok config =>
        cases hoptions : a.options stack.showing (config.getD []) with
        | error f =>
          cases f with
          | invalid e => exact Or.inl (.settings hasks hload hoptions)
          | crash c => exact Or.inr (Or.inl ⟨_, .setting hasks hload hoptions⟩)
        | ok o =>
          have hsets : Sets stack argv fs o := ⟨a, config, hasks, hload, hoptions⟩
          cases hgrammar : o.grammarName r with
          | error e => exact Or.inl (.noGrammar hsets hgrammar)
          | ok name =>
            by_cases hinput : o.watch = true ∧ o.input = none
            · exact Or.inl (.noInput hsets hinput.1 hinput.2)
            · exact Or.inr (Or.inr ⟨o, hsets, ⟨name, hgrammar⟩, fun hwatch hnone =>
                hinput ⟨hwatch, hnone⟩⟩)

theorem request_of_informs (h : Informs argv) (stack : Stack) (r : Registry) (fs : Files) :
    ∃ effect, request stack argv r fs = .done effect ∧ effect.exit = .ok 0 := by
  rcases h with hargs | ⟨a, hargs, hlist⟩
  · simp only [request, hargs]
    exact ⟨_, rfl, rfl⟩
  · simp only [request, hargs, hlist, if_true]
    exact ⟨_, rfl, rfl⟩

/-- A configuration that cannot be loaded ends a run. -/
theorem request_of_unloaded {a : Arguments} {e : ConfigError} (hasks : Asks argv a)
    (h : Unloaded stack fs a.configPath e) (r : Registry) :
    ∃ effect, request stack argv r fs = .done effect ∧ effect.exit = e.exit := by
  obtain ⟨log, hresolve⟩ := resolve_eq stack a fs
  rw [loadConfig_eq_error.mpr h] at hresolve
  simp only [request, hasks.1, hasks.2, hresolve]
  cases e <;> exact ⟨_, rfl, rfl⟩

/-- So do settings that cannot be merged. -/
theorem request_of_unset {a : Arguments} {config : Option (Table Value)} {f : SettingsFailure}
    (hasks : Asks argv a) (hload : loadConfig stack fs a.configPath = .ok config)
    (hoptions : a.options stack.showing (config.getD []) = .error f) (r : Registry) :
    ∃ effect, request stack argv r fs = .done effect ∧ effect.exit = f.exit := by
  obtain ⟨log, hresolve⟩ := resolve_eq stack a fs
  rw [hload] at hresolve
  simp only [request, hasks.1, hasks.2, hresolve, Except.map, hoptions]
  cases f <;> exact ⟨_, rfl, rfl⟩

theorem request_of_configBreaks {b : Break} (h : ConfigBreaks stack argv fs b) (r : Registry) :
    ∃ effect, request stack argv r fs = .done effect ∧ effect.exit = .error b := by
  cases h with
  | file hasks hload | undecodable hasks hload | table hasks hload =>
    exact request_of_unloaded hasks hload r
  | setting hasks hload hoptions => exact request_of_unset hasks hload hoptions r

/-- What is asked for with settings: nothing without a grammar or with nothing to watch, else to render
once or to watch. -/
theorem request_of_sets {o : Options} (h : Sets stack argv fs o) (r : Registry) :
    (((∃ e, o.grammarName r = .error e) ∨ o.watch = true ∧ o.input = none) ∧
      ∃ effect, request stack argv r fs = .done effect ∧ effect.exit = .ok 2) ∨
    (∃ name, o.grammarName r = .ok name) ∧
      ((o.watch = false ∧ ∃ log, request stack argv r fs = .once log o) ∨
        o.watch = true ∧ ∃ log input, o.input = some input ∧
          request stack argv r fs = .watch log o input) := by
  obtain ⟨a, config, ⟨hargs, hlist⟩, hload, hoptions⟩ := h
  obtain ⟨log, hresolve⟩ := resolve_eq stack a fs
  rw [hload] at hresolve
  simp only [request, hargs, hlist, hresolve, Except.map, hoptions]
  cases o.grammarName r with
  | error e => exact Or.inl ⟨Or.inl ⟨e, rfl⟩, _, rfl, rfl⟩
  | ok name =>
    cases o.watch with
    | false => exact Or.inr ⟨⟨name, rfl⟩, Or.inl ⟨rfl, _, rfl⟩⟩
    | true =>
      cases o.input with
      | none => exact Or.inl ⟨Or.inr ⟨rfl, rfl⟩, _, rfl, rfl⟩
      | some input => exact Or.inr ⟨⟨name, rfl⟩, Or.inr ⟨rfl, _, input, rfl, rfl⟩⟩

theorem request_of_refused (h : Refused stack argv r fs) :
    ∃ effect, request stack argv r fs = .done effect ∧ effect.exit = .ok 2 := by
  cases h with
  | usage hargs =>
    simp only [request, hargs]
    exact ⟨_, rfl, rfl⟩
  | config hasks hload => exact request_of_unloaded hasks hload r
  | settings hasks hload hoptions => exact request_of_unset hasks hload hoptions r
  | noGrammar hsets hgrammar =>
    rcases request_of_sets hsets r with ⟨_, hdone⟩ | ⟨⟨name, hname⟩, _⟩
    · exact hdone
    · exact absurd (hname.symm.trans hgrammar) (by simp)
  | noInput hsets hwatch hinput =>
    rcases request_of_sets hsets r with
      ⟨_, hdone⟩ | ⟨_, ⟨honce, _⟩ | ⟨_, _, _, hsome, _⟩⟩
    · exact hdone
    · exact absurd (honce.symm.trans hwatch) (by simp)
    · exact absurd (hsome.symm.trans hinput) (by simp)

theorem request_of_starts {o : Options} (h : Starts stack argv r fs o) :
    (o.watch = false ∧ ∃ log, request stack argv r fs = .once log o) ∨
    (o.watch = true ∧ ∃ log input, o.input = some input ∧
      request stack argv r fs = .watch log o input) := by
  obtain ⟨hsets, ⟨name, hname⟩, hinput⟩ := h
  rcases request_of_sets hsets r with ⟨⟨e, hgrammar⟩ | ⟨hwatch, hnone⟩, _⟩ | ⟨_, hrequest⟩
  · exact absurd (hname.symm.trans hgrammar) (by simp)
  · exact absurd hnone (hinput hwatch)
  · exact hrequest

end Request

end Highlight.CommandLine
