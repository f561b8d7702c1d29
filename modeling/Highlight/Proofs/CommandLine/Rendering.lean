import Highlight.CommandLine.Run
import Highlight.Proofs.Result

/-!
# What renderings fail at

A rendering takes its stages in order: the input, the theme, the grammar, and the tokens.

* `render_eq_error`: what a rendering fails at, once there is a grammar; the stage that fails comes after
  stages that do not.
* `render_cases`: a rendering that does not fail has all that it is made from, and whether it fails does
  not depend on whether it merges tokens.
* `deliver_exit`: what is rendered is delivered, unless the output cannot be written.
-/

namespace Highlight.CommandLine

open Text

/-! ## Rendering and delivering -/

/-- Why there is nothing to write: the input or the theme cannot be had, or the grammar fails.  Each of these
comes after what is done before it. -/
inductive Options.Unrendered (stack : Stack) (o : Options) (r : Registry) (fs : Files)
    (stdin : List UInt8) : RenderError → Prop
  | input {p : Path} {f : FileFailure} (hinput : o.input = some p) (hread : fs.read p = .error f) :
      Unrendered stack o r fs stdin (.ofFile f)
  | undecodable {bytes : List UInt8} {e : Utf8Error} (hbytes : o.inputBytes fs stdin = .ok bytes)
      (hdecode : decodeUtf8 bytes = .error e) : Unrendered stack o r fs stdin (.undecodable e)
  | theme {source : List Char} {e : ThemeFileError} (hsource : o.source fs stdin = .ok source)
      (htheme : Theme.resolve stack fs o.theme = .error e) :
      Unrendered stack o r fs stdin (.ofTheme e)
  | grammar {source : List Char} {theme : Theme} {name : String} {e : GrammarError}
      (hsource : o.source fs stdin = .ok source)
      (htheme : Theme.resolve stack fs o.theme = .ok theme) (hname : o.grammarName r = .ok name)
      (hget : r.get name = .error e) : Unrendered stack o r fs stdin (.grammar e)
  | tokens {source : List Char} {theme : Theme} {name : String} {g : Grammar} {e : GrammarError}
      (hsource : o.source fs stdin = .ok source)
      (htheme : Theme.resolve stack fs o.theme = .ok theme) (hname : o.grammarName r = .ok name)
      (hget : r.get name = .ok g) (htokens : rawTokens g source = .error e) :
      Unrendered stack o r fs stdin (.grammar e)

/-- The input is rendered, but the output cannot be written. -/
def Options.Undelivered (stack : Stack) (o : Options) (r : Registry) (fs : Files)
    (stdin : List UInt8) (b : Break) : Prop :=
  ∃ rendered p f, o.render stack r fs stdin = .ok rendered ∧ o.output = some p ∧
    fs.write p (encodeUtf8 rendered.text) = .error f ∧ b = .ofFile f

section Render

variable {stack : Stack} {o : Options} {r : Registry} {fs : Files} {stdin : List UInt8}

/-- A source comes from bytes that can be read and decoded. -/
theorem exists_of_source {source : List Char} (h : o.source fs stdin = .ok source) :
    ∃ bytes text, o.inputBytes fs stdin = .ok bytes ∧ decodeUtf8 bytes = .ok text ∧
      source = unifyLineEnds text := by
  obtain ⟨bytes, hbytes, h⟩ := Except.bind_eq_ok.mp h
  obtain ⟨text, hdecode, h⟩ := Except.bind_eq_ok.mp h
  exact ⟨bytes, text, hbytes, Except.mapError_eq_ok.mp hdecode, (Except.ok.inj h).symm⟩

/-- There is no source where the input cannot be read, or cannot be decoded. -/
theorem source_eq_error {e : RenderError} : o.source fs stdin = .error e ↔
    (∃ p f, o.input = some p ∧ fs.read p = .error f ∧ e = .ofFile f) ∨
    ∃ bytes u, o.inputBytes fs stdin = .ok bytes ∧ decodeUtf8 bytes = .error u ∧ e = .undecodable u := by
  constructor
  · intro h
    rcases Except.bind_eq_error.mp h with hbytes | ⟨bytes, hbytes, h⟩
    · unfold Options.inputBytes at hbytes
      split at hbytes
      · cases hbytes
      · next p hinput =>
        obtain ⟨f, hread, rfl⟩ := Except.mapError_eq_error.mp hbytes
        exact Or.inl ⟨p, f, hinput, hread, rfl⟩
    · rcases Except.bind_eq_error.mp h with hdecode | ⟨text, _, h⟩
      · obtain ⟨u, hu, rfl⟩ := Except.mapError_eq_error.mp hdecode
        exact Or.inr ⟨bytes, u, hbytes, hu, rfl⟩
      · cases h
  · rintro (⟨p, f, hinput, hread, rfl⟩ | ⟨bytes, u, hbytes, hdecode, rfl⟩)
    · refine Except.bind_eq_error.mpr (Or.inl ?_)
      rw [Options.inputBytes, hinput]
      exact Except.mapError_eq_error.mpr ⟨f, hread, rfl⟩
    · refine Except.bind_eq_error.mpr (Or.inr ⟨bytes, hbytes, Except.bind_eq_error.mpr (Or.inl ?_)⟩)
      exact Except.mapError_eq_error.mpr ⟨u, hdecode, rfl⟩

theorem resolveTheme_eq_ok {theme : Theme} :
    o.resolveTheme stack fs = .ok theme ↔ Theme.resolve stack fs o.theme = .ok theme :=
  Except.mapError_eq_ok

theorem unrendered_of_render {name : String} (hname : o.grammarName r = .ok name) {e : RenderError}
    (h : o.render stack r fs stdin = .error e) : o.Unrendered stack r fs stdin e := by
  rw [Options.render, hname] at h
  rcases Except.bind_eq_error.mp h with hsource | ⟨source, hsource, h⟩
  · rcases source_eq_error.mp hsource with ⟨p, f, hinput, hread, rfl⟩ | ⟨bytes, u, hbytes, hdecode, rfl⟩
    · exact .input hinput hread
    · exact .undecodable hbytes hdecode
  rcases Except.bind_eq_error.mp h with hok | ⟨_, hok, h⟩
  · cases hok
  obtain rfl := Except.ok.inj hok
  rcases Except.bind_eq_error.mp h with htheme | ⟨theme, htheme, h⟩
  · obtain ⟨f, hf, rfl⟩ := Except.mapError_eq_error.mp htheme
    exact .theme hsource hf
  rw [resolveTheme_eq_ok] at htheme
  rcases Except.bind_eq_error.mp h with hget | ⟨g, hget, h⟩
  · obtain ⟨f, hf, rfl⟩ := Except.mapError_eq_error.mp hget
    exact .grammar hsource htheme hname hf
  rcases Except.bind_eq_error.mp h with htokens | ⟨raw, _, h⟩
  · obtain ⟨f, hf, rfl⟩ := Except.mapError_eq_error.mp htokens
    exact .tokens hsource htheme hname (Except.mapError_eq_ok.mp hget) hf
  · cases h

theorem Options.Unrendered.render_eq {name : String} (hname : o.grammarName r = .ok name)
    {e : RenderError} (h : o.Unrendered stack r fs stdin e) :
    o.render stack r fs stdin = .error e := by
  have hnoSource : ∀ {e}, o.source fs stdin = .error e → o.render stack r fs stdin = .error e :=
    fun hsource => Except.bind_eq_error.mpr (Or.inl hsource)
  cases h with
  | input hinput hread => exact hnoSource (source_eq_error.mpr (Or.inl ⟨_, _, hinput, hread, rfl⟩))
  | undecodable hbytes hdecode =>
    exact hnoSource (source_eq_error.mpr (Or.inr ⟨_, _, hbytes, hdecode, rfl⟩))
  | theme hsource htheme =>
    rw [Options.render, hsource, hname, Options.resolveTheme, htheme]
    rfl
  | grammar hsource htheme hname hget =>
    rw [Options.render, hsource, hname, resolveTheme_eq_ok.mpr htheme]
    simp only [bind, Except.bind, Except.mapError_ok, hget, Except.mapError_error]
  | tokens hsource htheme hname hget htokens =>
    rw [Options.render, hsource, hname, resolveTheme_eq_ok.mpr htheme]
    simp only [bind, Except.bind, Except.mapError_ok, hget, htokens, Except.mapError_error]

/-- **A rendering with a grammar fails exactly for these reasons.** -/
theorem render_eq_error {name : String} (hname : o.grammarName r = .ok name) {e : RenderError} :
    o.render stack r fs stdin = .error e ↔ o.Unrendered stack r fs stdin e :=
  ⟨unrendered_of_render hname, fun h => h.render_eq hname⟩

/-- The grammar is none of the reasons. -/
theorem Options.Unrendered.ne_options {e : RenderError} (h : o.Unrendered stack r fs stdin e)
    (f : OptionsError) : e ≠ .options f := by
  cases h with
  | @input _ f => cases f <;> nofun
  | @theme _ e => cases e <;> nofun
  | undecodable | grammar | tokens => nofun

/-- **A rendering fails, or has all that it is made from**, and merges the runs of its tokens or does
not.  Whether it fails does not depend on that. -/
theorem render_cases (stack : Stack) (o : Options) (r : Registry) (fs : Files) (stdin : List UInt8) :
    (∃ e, ∀ combined, { o with combined }.render stack r fs stdin = .error e) ∨
    ∃ source name theme g raw, o.source fs stdin = .ok source ∧ o.grammarName r = .ok name ∧
      o.resolveTheme stack fs = .ok theme ∧ r.get name = .ok g ∧ rawTokens g source = .ok raw ∧
      ∀ combined, ∃ log, { o with combined }.render stack r fs stdin =
        .ok ⟨Highlight.render (if combined then combine raw else raw) theme o.markup, log⟩ := by
  have hrender : ∀ combined, { o with combined }.render stack r fs stdin = do
      let source ← o.source fs stdin
      let name ← (o.grammarName r).mapError .options
      let theme ← o.resolveTheme stack fs
      let g ← (r.get name).mapError .grammar
      let raw ← (rawTokens g source).mapError .grammar
      let shown := if combined then combine raw else raw
      return ⟨Highlight.render shown theme o.markup,
        if o.debug then tokenLog g source raw shown else ""⟩ := fun _ => rfl
  simp only [hrender]
  cases o.source fs stdin with
  | error e => exact Or.inl ⟨e, fun _ => rfl⟩
  | ok source =>
    cases o.grammarName r with
    | error e => exact Or.inl ⟨.options e, fun _ => rfl⟩
    | ok name =>
      cases o.resolveTheme stack fs with
      | error e => exact Or.inl ⟨e, fun _ => rfl⟩
      | ok theme =>
        cases hget : r.get name with
        | error e =>
          refine Or.inl ⟨.grammar e, fun _ => ?_⟩
          simp only [bind, Except.bind, Except.mapError_ok, Except.mapError_error, hget]
        | ok g =>
          cases htokens : rawTokens g source with
          | error e =>
            refine Or.inl ⟨.grammar e, fun _ => ?_⟩
            simp only [bind, Except.bind, Except.mapError_ok, Except.mapError_error, hget, htokens]
          | ok raw =>
            refine Or.inr ⟨source, name, theme, g, raw, rfl, rfl, rfl, hget, htokens, fun combined =>
              ⟨if o.debug then tokenLog g source raw (if combined then combine raw else raw) else "", ?_⟩⟩
            simp only [bind, Except.bind, Except.mapError_ok, hget, htokens]
            rfl

/-- A rendering that succeeds has all that it is made from. -/
theorem exists_of_render {rendered : Rendered} (h : o.render stack r fs stdin = .ok rendered) :
    ∃ source name theme g raw, o.source fs stdin = .ok source ∧ o.grammarName r = .ok name ∧
      o.resolveTheme stack fs = .ok theme ∧ r.get name = .ok g ∧ rawTokens g source = .ok raw ∧
      rendered.text = Highlight.render (if o.combined then combine raw else raw) theme o.markup := by
  rcases render_cases stack o r fs stdin with
    ⟨e, herror⟩ | ⟨source, name, theme, g, raw, hsource, hname, htheme, hget, htokens, hok⟩
  · exact absurd (h.symm.trans (herror o.combined)) (by simp)
  · obtain ⟨log, hlog⟩ := hok o.combined
    obtain rfl := Except.ok.inj (h.symm.trans hlog)
    exact ⟨source, name, theme, g, raw, hsource, hname, htheme, hget, htokens, rfl⟩

/-- A text is delivered, or the output cannot be written. -/
theorem deliver_exit (o : Options) (fs : Files) (text : List Char) :
    (o.deliver fs text).exit = .ok 0 ∨
    ∃ p f, o.output = some p ∧ fs.write p (encodeUtf8 text) = .error f ∧
      (o.deliver fs text).exit = .error (.ofFile f) := by
  unfold Options.deliver
  cases o.output with
  | none => exact Or.inl rfl
  | some p =>
    cases hwrite : fs.write p (encodeUtf8 text) with
    | ok files => exact Or.inl (by simp only [hwrite])
    | error f => exact Or.inr ⟨p, f, rfl, hwrite, by simp only [hwrite]⟩

end Render

end Highlight.CommandLine
