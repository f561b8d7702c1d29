import Highlight.Proofs.CommandLine.Exit
import Highlight.Proofs.Style.ThemeData

/-!
# Failures of theme files

A theme file holds a theme, or has a fault, or is no text, or goes beyond a limit
(`holds_or_failsToLoad`), and loading it comes to just that (`load_eq_ok`, `load_eq_error`).  A fault is
reported with the path of the file.  The others are failures apart.

A run does not tell all of them from failures of its input (`render_eq_of_file`): of an input that is read
it says that it cannot be decoded if the theme file is no text (`render_eq_undecodable`), and that it cannot
be read if it cannot be found out whether a theme file is meant (`render_eq_unreadable`).
-/

namespace Highlight

open Text CommandLine

namespace Theme

/-! ## Loading -/

section Load

variable {stack : Stack} {fs : Files} {path : Path}

/-- A file with the data of a theme. -/
def Holds (stack : Stack) (fs : Files) (path : Path) (theme : Theme) : Prop :=
  ∃ bytes text data, fs.read path = .ok bytes ∧ decodeUtf8 bytes = .ok text ∧
    Toml.read stack text = .ok data ∧ HasRules data theme.rules ∧
    HasName stack.showing data path.stem theme.name

/-- What is wrong with a theme file: it cannot be read, its text is no table, or the table is no theme. -/
inductive FileFaulty (stack : Stack) (fs : Files) (path : Path) : ThemeFault → Prop
  | unreadable {e : FileError} (hread : fs.read path = .error (.error e)) :
      FileFaulty stack fs path (.unreadableFile e.fault.reason)
  | malformed {bytes : List UInt8} {text : List Char} {e : Toml.Error}
      (hread : fs.read path = .ok bytes) (hdecode : decodeUtf8 bytes = .ok text)
      (htoml : Toml.read stack text = .error (.malformed e)) :
      FileFaulty stack fs path (.invalidFile e)
  | data {bytes : List UInt8} {text : List Char} {data : Table Value} {f : ThemeFault}
      (hread : fs.read path = .ok bytes) (hdecode : decodeUtf8 bytes = .ok text)
      (htoml : Toml.read stack text = .ok data) (hdata : HasFault data f) :
      FileFaulty stack fs path f

/-- A file that is no text. -/
def Undecodable (fs : Files) (path : Path) (e : Utf8Error) : Prop :=
  ∃ bytes, fs.read path = .ok bytes ∧ decodeUtf8 bytes = .error e

/-- What of a theme file is beyond a limit: its path, its text, or the name of its theme. -/
inductive FileCrashes (stack : Stack) (fs : Files) (path : Path) : Crash → Prop
  | path (hnull : Files.hasNull path = true) : FileCrashes stack fs path .nullCharacter
  | text {bytes : List UInt8} {text : List Char} {c : Crash} (hread : fs.read path = .ok bytes)
      (hdecode : decodeUtf8 bytes = .ok text) (htoml : Toml.read stack text = .error (.crash c)) :
      FileCrashes stack fs path c
  | name {bytes : List UInt8} {text : List Char} {data : Table Value} {rules : List ThemeRule}
      {c : Crash} (hread : fs.read path = .ok bytes) (hdecode : decodeUtf8 bytes = .ok text)
      (htoml : Toml.read stack text = .ok data) (hrules : HasRules data rules)
      (hname : Unnamable stack.showing data c) : FileCrashes stack fs path c

/-- How loading a theme file fails. -/
inductive FailsToLoad (stack : Stack) (fs : Files) (path : Path) : ThemeFileError → Prop
  | faulty {f : ThemeFault} (h : FileFaulty stack fs path f) :
      FailsToLoad stack fs path (.theme ⟨f, some path⟩)
  | undecodable {e : Utf8Error} (h : Undecodable fs path e) :
      FailsToLoad stack fs path (.undecodable e)
  | crash {c : Crash} (h : FileCrashes stack fs path c) : FailsToLoad stack fs path (.crash c)

theorem Holds.load_eq {theme : Theme} (h : Holds stack fs path theme) :
    load stack fs path = .ok theme := by
  obtain ⟨bytes, text, data, hread, hdecode, htoml, hdata⟩ := h
  simp only [load, hread, hdecode, htoml, ofData_eq_ok.mpr hdata]

theorem FileFaulty.load_eq {f : ThemeFault} (h : FileFaulty stack fs path f) :
    load stack fs path = .error (.theme ⟨f, some path⟩) := by
  cases h with
  | unreadable hread => simp only [load, hread]
  | malformed hread hdecode htoml => simp only [load, hread, hdecode, htoml]
  | @data _ _ data _ hread hdecode htoml hdata =>
    have herror : ofData stack.showing data path.stem (some path) = .error (.theme ⟨f, some path⟩) :=
      ofData_eq_theme.mpr ⟨hdata, rfl⟩
    simp only [load, hread, hdecode, htoml, herror]

theorem FileCrashes.load_eq {c : Crash} (h : FileCrashes stack fs path c) :
    load stack fs path = .error (.crash c) := by
  cases h with
  | path hnull => simp only [load, Files.read_eq_crash.mpr ⟨hnull, rfl⟩]
  | text hread hdecode htoml => simp only [load, hread, hdecode, htoml]
  | @name _ _ data _ _ hread hdecode htoml hrules hname =>
    have herror : ofData stack.showing data path.stem (some path) = .error (.crash c) :=
      ofData_eq_crash.mpr ⟨⟨_, hrules⟩, hname⟩
    simp only [load, hread, hdecode, htoml, herror]

theorem FailsToLoad.load_eq {e : ThemeFileError} (h : FailsToLoad stack fs path e) :
    load stack fs path = .error e := by
  cases h with
  | faulty h => exact h.load_eq
  | undecodable h =>
    obtain ⟨bytes, hread, hdecode⟩ := h
    simp only [load, hread, hdecode]
  | crash h => exact h.load_eq

/-- **Every path leads to a theme or to a failure**, whatever lies there. -/
theorem holds_or_failsToLoad (stack : Stack) (fs : Files) (path : Path) :
    (∃ theme, Holds stack fs path theme) ∨ ∃ e, FailsToLoad stack fs path e := by
  cases hread : fs.read path with
  | error f =>
    cases f with
    | error e => exact Or.inr ⟨_, .faulty (.unreadable hread)⟩
    | crash c =>
      obtain ⟨hnull, rfl⟩ := Files.read_eq_crash.mp hread
      exact Or.inr ⟨_, .crash (.path hnull)⟩
  | ok bytes =>
    cases hdecode : decodeUtf8 bytes with
    | error e => exact Or.inr ⟨_, .undecodable ⟨bytes, hread, hdecode⟩⟩
    | ok text =>
      cases htoml : Toml.read stack text with
      | error u =>
        cases u with
        | malformed e => exact Or.inr ⟨_, .faulty (.malformed hread hdecode htoml)⟩
        | crash c => exact Or.inr ⟨_, .crash (.text hread hdecode htoml)⟩
      | ok data =>
        cases hdata : ofData stack.showing data path.stem with
        | error f =>
          cases f with
          | theme e =>
            exact Or.inr ⟨_, .faulty (.data hread hdecode htoml (ofData_eq_theme.mp hdata).1)⟩
          | crash c =>
            obtain ⟨⟨rules, hrules⟩, hname⟩ := ofData_eq_crash.mp hdata
            exact Or.inr ⟨_, .crash (.name hread hdecode htoml hrules hname)⟩
        | ok theme =>
          exact Or.inl ⟨theme, bytes, text, data, hread, hdecode, htoml, ofData_eq_ok.mp hdata⟩

theorem load_eq_ok {theme : Theme} : load stack fs path = .ok theme ↔ Holds stack fs path theme :=
  Except.eq_ok_iff_of_cases (fun _ h => h.load_eq) (fun _ h => h.load_eq)
    (holds_or_failsToLoad stack fs path)

theorem load_eq_error {e : ThemeFileError} :
    load stack fs path = .error e ↔ FailsToLoad stack fs path e :=
  Except.eq_error_iff_of_cases (fun _ h => h.load_eq) (fun _ h => h.load_eq)
    (holds_or_failsToLoad stack fs path)

theorem failsToLoad_theme {e : ThemeError} : FailsToLoad stack fs path (.theme e) ↔
    FileFaulty stack fs path e.fault ∧ e.path = some path := by
  constructor
  · rintro ⟨hfaulty⟩
    exact ⟨hfaulty, rfl⟩
  · obtain ⟨fault, errorPath⟩ := e
    rintro ⟨hfaulty, rfl⟩
    exact .faulty hfaulty

theorem failsToLoad_undecodable {e : Utf8Error} :
    FailsToLoad stack fs path (.undecodable e) ↔ Undecodable fs path e :=
  ⟨fun h => by cases h; assumption, .undecodable⟩

theorem failsToLoad_crash {c : Crash} :
    FailsToLoad stack fs path (.crash c) ↔ FileCrashes stack fs path c :=
  ⟨fun h => by cases h; assumption, .crash⟩

theorem load_ne_file (e : FileError) : load stack fs path ≠ .error (.file e) := by
  intro h
  cases load_eq_error.mp h

/-! ## Asking for a theme -/

/-- How asking for a theme fails where a file is meant, or where that cannot be found out. -/
inductive FileFails (stack : Stack) (fs : Files) (spec : String) : ThemeFileError → Prop
  | unknown {e : FileError} (hspec : isFileSpec fs spec = .error e) : FileFails stack fs spec (.file e)
  | load {e : ThemeFileError} (hspec : isFileSpec fs spec = .ok true)
      (hload : FailsToLoad stack fs (.ofString spec) e) : FileFails stack fs spec e

theorem fileFails_file {spec : String} {e : FileError} :
    FileFails stack fs spec (.file e) ↔ isFileSpec fs spec = .error e := by
  constructor
  · intro h
    cases h with
    | unknown hspec => exact hspec
    | load _ hload => cases hload
  · exact .unknown

theorem fileFails_undecodable {spec : String} {e : Utf8Error} : FileFails stack fs spec (.undecodable e) ↔
    isFileSpec fs spec = .ok true ∧ Undecodable fs (.ofString spec) e := by
  constructor
  · intro h
    cases h with
    | load hspec hload => exact ⟨hspec, failsToLoad_undecodable.mp hload⟩
  · rintro ⟨hspec, hundecodable⟩
    exact .load hspec (.undecodable hundecodable)

theorem fileFails_crash {spec : String} {c : Crash} : FileFails stack fs spec (.crash c) ↔
    isFileSpec fs spec = .ok true ∧ FileCrashes stack fs (.ofString spec) c := by
  constructor
  · intro h
    cases h with
    | load hspec hload => exact ⟨hspec, failsToLoad_crash.mp hload⟩
  · rintro ⟨hspec, hcrashes⟩
    exact .load hspec (.crash hcrashes)

theorem FileFails.resolve_eq {spec : String} {e : ThemeFileError} (h : FileFails stack fs spec e) :
    resolve stack fs (some spec) = .error e := by
  cases h with
  | unknown hspec => simp only [resolve, hspec]
  | load hspec hload =>
    simp only [resolve, hspec]
    exact hload.load_eq

/-- Asking for a theme fails with a file, or for a name that is unknown. -/
theorem resolve_eq_error {spec : Option String} {e : ThemeFileError}
    (h : resolve stack fs spec = .error e) :
    (∃ file, spec = some file ∧ FileFails stack fs file e) ∨
      ∃ name f, spec = some name ∧ isFileSpec fs name = .ok false ∧ e = .theme f := by
  unfold resolve at h
  split at h
  · cases h
  · next spec =>
    split at h
    · next hspec =>
      obtain rfl := Except.error.inj h
      exact Or.inl ⟨spec, rfl, .unknown hspec⟩
    · next hspec => exact Or.inl ⟨spec, rfl, .load hspec (load_eq_error.mp h)⟩
    · next hspec =>
      split at h
      · obtain rfl := Except.error.inj h
        exact Or.inr ⟨spec, _, rfl, hspec, rfl⟩
      · cases h

/-- A failure that is no error of themes comes from a file. -/
theorem resolve_eq_of_file {spec : Option String} {e : ThemeFileError} (he : ∀ f, e ≠ .theme f) :
    resolve stack fs spec = .error e ↔ ∃ file, spec = some file ∧ FileFails stack fs file e := by
  constructor
  · intro h
    rcases resolve_eq_error h with hfile | ⟨_, f, -, -, rfl⟩
    · exact hfile
    · exact absurd rfl (he f)
  · rintro ⟨file, rfl, hfile⟩
    exact hfile.resolve_eq

end Load

end Theme

namespace CommandLine

/-! ## Rendering with a theme file -/

section Render

variable {stack : Stack} {o : Options} {r : Registry} {fs : Files} {stdin : List UInt8}
  {source : List Char} {name : String}

theorem render_of_resolve (hsource : o.source fs stdin = .ok source)
    (hname : o.grammarName r = .ok name) {f : ThemeFileError}
    (h : Theme.resolve stack fs o.theme = .error f) : o.render stack r fs stdin = .error (.ofTheme f) :=
  (render_eq_error hname).mpr (.theme hsource h)

/-- If the input is read, it is the grammar or the theme that fails. -/
theorem resolve_of_render (hsource : o.source fs stdin = .ok source)
    (hname : o.grammarName r = .ok name) {e : RenderError}
    (h : o.render stack r fs stdin = .error e) :
    (∃ f, e = .grammar f) ∨ ∃ f, Theme.resolve stack fs o.theme = .error f ∧ e = .ofTheme f := by
  have hnoSource : ∀ {e}, o.source fs stdin ≠ .error e := fun h => by cases hsource.symm.trans h
  cases unrendered_of_render hname h with
  | input hinput hread =>
    exact absurd (source_eq_error.mpr (Or.inl ⟨_, _, hinput, hread, rfl⟩)) hnoSource
  | undecodable hbytes hdecode =>
    exact absurd (source_eq_error.mpr (Or.inr ⟨_, _, hbytes, hdecode, rfl⟩)) hnoSource
  | theme _ htheme => exact Or.inr ⟨_, htheme, rfl⟩
  | grammar | tokens => exact Or.inl ⟨_, rfl⟩

theorem ofTheme_inj {f f' : ThemeFileError} : RenderError.ofTheme f = .ofTheme f' ↔ f = f' := by
  cases f <;> cases f' <;> simp [RenderError.ofTheme]

/-- **If the input is read, a failure that is no error of grammars or themes is that of a theme file.** -/
theorem render_eq_of_file (hsource : o.source fs stdin = .ok source)
    (hname : o.grammarName r = .ok name) (f : ThemeFileError) (hf : ∀ e, f ≠ .theme e) :
    o.render stack r fs stdin = .error (.ofTheme f) ↔
      ∃ spec, o.theme = some spec ∧ Theme.FileFails stack fs spec f := by
  rw [← Theme.resolve_eq_of_file hf]
  refine ⟨fun h => ?_, render_of_resolve hsource hname⟩
  rcases resolve_of_render hsource hname h with ⟨e, he⟩ | ⟨f', htheme, he⟩
  · cases f <;> cases he
  · rwa [ofTheme_inj.mp he]

/-- It is said to be no text exactly if the theme file is none. -/
theorem render_eq_undecodable (hsource : o.source fs stdin = .ok source)
    (hname : o.grammarName r = .ok name) {e : Utf8Error} :
    o.render stack r fs stdin = .error (.undecodable e) ↔ ∃ spec, o.theme = some spec ∧
      Theme.isFileSpec fs spec = .ok true ∧ Theme.Undecodable fs (.ofString spec) e := by
  simp only [← @Theme.fileFails_undecodable stack]
  exact render_eq_of_file hsource hname (.undecodable e) nofun

/-- It is said to be unreadable exactly if it cannot be found out whether a theme file is meant. -/
theorem render_eq_unreadable (hsource : o.source fs stdin = .ok source)
    (hname : o.grammarName r = .ok name) {e : FileError} :
    o.render stack r fs stdin = .error (.unreadable e) ↔
      ∃ spec, o.theme = some spec ∧ Theme.isFileSpec fs spec = .error e := by
  simp only [← @Theme.fileFails_file stack]
  exact render_eq_of_file hsource hname (.file e) nofun

/-- The rendering crashes exactly if loading the theme file does. -/
theorem render_eq_crash (hsource : o.source fs stdin = .ok source)
    (hname : o.grammarName r = .ok name) {c : Crash} :
    o.render stack r fs stdin = .error (.crash c) ↔ ∃ spec, o.theme = some spec ∧
      Theme.isFileSpec fs spec = .ok true ∧ Theme.FileCrashes stack fs (.ofString spec) c := by
  simp only [← Theme.fileFails_crash]
  exact render_eq_of_file hsource hname (.crash c) nofun

/-- What a run says of a theme file, if its input is read. -/
theorem stderr_of_faulty (hsource : o.source fs stdin = .ok source)
    (hname : o.grammarName r = .ok name) {spec : String} (hspec : o.theme = some spec)
    (hfile : Theme.isFileSpec fs spec = .ok true) {f : ThemeFault}
    (h : Theme.FileFaulty stack fs (.ofString spec) f) :
    (o.runOnce stack r fs stdin).stderr = themeReport f.message (some (.ofString spec)) ++ "\n" := by
  have hrender : o.render stack r fs stdin = .error (.theme ⟨f, some (.ofString spec)⟩) :=
    render_of_resolve hsource hname (hspec ▸ (Theme.FileFails.load hfile (.faulty h)).resolve_eq)
  simp only [Options.runOnce, hrender]
  rfl

end Render

/-- **What loading a theme comes to**, for all files and paths: the theme that the file holds, the fault of the
file together with its path, the failure of a file that is no text, which has no path, or a crash.

Of a run whose input is read, a fault is reported with the path of the theme file.  But of two other
failures it says that the input is at fault: of a theme file that is no text, that the input cannot be
decoded, and where it cannot be found out whether a theme file is meant, that the input cannot be read.
Over a crash nothing is said. -/
theorem load_blames (stack : Stack) (fs : Files) :
    (∀ path,
      (∀ theme, Theme.load stack fs path = .ok theme ↔ Theme.Holds stack fs path theme) ∧
      (∀ e, Theme.load stack fs path = .error (.theme e) ↔
        Theme.FileFaulty stack fs path e.fault ∧ e.path = some path) ∧
      (∀ e, Theme.load stack fs path = .error (.undecodable e) ↔ Theme.Undecodable fs path e) ∧
      (∀ c, Theme.load stack fs path = .error (.crash c) ↔ Theme.FileCrashes stack fs path c) ∧
      ∀ e, Theme.load stack fs path ≠ .error (.file e)) ∧
    ∀ (o : Options) (r : Registry) (stdin : List UInt8) (source : List Char) (name : String),
      o.source fs stdin = .ok source → o.grammarName r = .ok name →
      (∀ e, o.render stack r fs stdin = .error (.unreadable e) ↔
        ∃ spec, o.theme = some spec ∧ Theme.isFileSpec fs spec = .error e) ∧
      (∀ e, o.render stack r fs stdin = .error (.undecodable e) ↔ ∃ spec, o.theme = some spec ∧
        Theme.isFileSpec fs spec = .ok true ∧ Theme.Undecodable fs (.ofString spec) e) ∧
      (∀ c, o.render stack r fs stdin = .error (.crash c) ↔ ∃ spec, o.theme = some spec ∧
        Theme.isFileSpec fs spec = .ok true ∧ Theme.FileCrashes stack fs (.ofString spec) c) ∧
      ∀ spec, o.theme = some spec →
        (∀ e, Theme.isFileSpec fs spec = .error e →
          (o.runOnce stack r fs stdin).stderr = unreadableReport o.input e ++ "\n") ∧
        (Theme.isFileSpec fs spec = .ok true →
          (∀ f, Theme.FileFaulty stack fs (.ofString spec) f → (o.runOnce stack r fs stdin).stderr =
            themeReport f.message (some (.ofString spec)) ++ "\n") ∧
          (∀ e, Theme.Undecodable fs (.ofString spec) e →
            (o.runOnce stack r fs stdin).stderr = undecodableReport o.input e ++ "\n") ∧
          ∀ c, Theme.FileCrashes stack fs (.ofString spec) c →
            (o.runOnce stack r fs stdin).exit = .error (.crash c)) := by
  refine ⟨fun path => ⟨fun theme => Theme.load_eq_ok,
    fun e => Theme.load_eq_error.trans Theme.failsToLoad_theme,
    fun e => Theme.load_eq_error.trans Theme.failsToLoad_undecodable,
    fun c => Theme.load_eq_error.trans Theme.failsToLoad_crash, Theme.load_ne_file⟩,
    fun o r stdin source name hsource hname => ?_⟩
  refine ⟨fun e => render_eq_unreadable hsource hname, fun e => render_eq_undecodable hsource hname,
    fun c => render_eq_crash hsource hname, fun spec hspec => ⟨fun e he => ?_,
      fun hfile => ⟨fun f hf => stderr_of_faulty hsource hname hspec hfile hf, fun e he => ?_,
        fun c hc => ?_⟩⟩⟩
  · simp only [Options.runOnce, (render_eq_unreadable hsource hname).mpr ⟨spec, hspec, he⟩]
  · simp only [Options.runOnce, (render_eq_undecodable hsource hname).mpr ⟨spec, hspec, hfile, he⟩]
  · exact runOnce_of_error ((render_eq_crash hsource hname).mpr ⟨spec, hspec, hfile, hc⟩)

/-- Settings that render a file of Lua with the theme in a file. -/
def styledLua : Options where
  input := some ⟨.relative, ["a.lua"]⟩
  output := none
  grammar := none
  theme := some "t.toml"
  markup := .richText
  combined := true
  extensions := []
  watch := false
  debug := false

/-- Files with a file of Lua of one byte and something in the place of the theme file. -/
def styledFiles (n : Node) : Files where
  nodes := [(["a.lua"], .file [0x78] (.time 1)), (["t.toml"], n)]

theorem styledLua_source (n : Node) : styledLua.source (styledFiles n) [] = .ok ['x'] := rfl

theorem styledLua_grammarName : styledLua.grammarName .builtin = .ok "lua" :=
  Except.toOption_eq_some.mp (by decide +kernel)

/-- A directory in the place of the theme file is reported as such. -/
theorem load_blames_directory :
    let fs := styledFiles (.directory (.time 1))
    Theme.load roomy.theme fs (.ofString "t.toml") =
      .error (.theme ⟨.unreadableFile "Is a directory", some (.ofString "t.toml")⟩) ∧
    (styledLua.runOnce roomy.theme .builtin fs []).stderr =
      "error: cannot read theme file: Is a directory\n  --> t.toml\n" := by
  intro fs
  have hread : (styledFiles (.directory (.time 1))).read (.ofString "t.toml") =
      .error (.error ⟨.isDirectory, .ofString "t.toml"⟩) := rfl
  have hfaulty : Theme.FileFaulty roomy.theme fs (.ofString "t.toml")
      (.unreadableFile "Is a directory") := .unreadable hread
  obtain ⟨hload, hrun⟩ := load_blames roomy.theme fs
  obtain ⟨-, -, -, hreport⟩ := hrun styledLua .builtin [] _ _ (styledLua_source _) styledLua_grammarName
  exact ⟨((hload _).2.1 _).mpr ⟨hfaulty, rfl⟩,
    (((hreport "t.toml" rfl).2 rfl).1 _ hfaulty).trans rfl⟩

/-- A theme file of one byte that starts no character: loading it fails without its path, and a run says
that it cannot decode its input, which is a text. -/
theorem load_undecodable :
    let fs := styledFiles (.file [0xFF] (.time 1))
    Theme.load roomy.theme fs (.ofString "t.toml") =
      .error (.undecodable ⟨.invalidStart, 0, 0xFF, 1⟩) ∧
    styledLua.source fs [] = .ok ['x'] ∧
    (styledLua.runOnce roomy.theme .builtin fs []).stderr =
      "error: cannot decode a.lua as UTF-8: invalid start byte at byte 0\n" := by
  intro fs
  have hread : (styledFiles (.file [0xFF] (.time 1))).read (.ofString "t.toml") = .ok [0xFF] := rfl
  have hundecodable : Theme.Undecodable fs (.ofString "t.toml") ⟨.invalidStart, 0, 0xFF, 1⟩ :=
    ⟨[0xFF], hread, rfl⟩
  refine ⟨Theme.FailsToLoad.load_eq (.undecodable hundecodable), styledLua_source _, ?_⟩
  have hrender : styledLua.render roomy.theme .builtin fs [] =
      .error (.undecodable ⟨.invalidStart, 0, 0xFF, 1⟩) :=
    (render_eq_undecodable (styledLua_source _) styledLua_grammarName).mpr
      ⟨"t.toml", rfl, rfl, hundecodable⟩
  simp only [Options.runOnce, hrender]
  rfl

end CommandLine

end Highlight
