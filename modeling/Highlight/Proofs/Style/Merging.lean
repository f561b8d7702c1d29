import Highlight.Proofs.CommandLine.Rendering
import Highlight.Proofs.CommandLine.Request
import Highlight.Proofs.Style.Reading

/-!
# Merged tokens look the same

The first rule for some tags does not depend on their order (`Theme.ruleFor_congr`), so the characters of
a run look as those of the merged token do.  What changes is where the tags of the markup stand: all the
tags of a style are one wrapper (`renderToken_eq`), which goes around each token of a run, or once around
the merged token (`looksLike_of_merges`).

So a run of the program with merged tokens and one without fail for the same reason or give texts that
look the same (`render_looksLike`).
-/

namespace Highlight

/-! ## Rules and styles -/

/-- **The first rule for some tags depends on nothing but which tags they are**, also if a tag has
several rules. -/
theorem Theme.ruleFor_congr (theme : Theme) {t u : Token} (h : t.sameTags u = true) :
    theme.ruleFor t.tags = theme.ruleFor u.tags := by
  have htags := Token.sameTags_iff.mp h
  simp only [Theme.ruleFor_eq, htags]

theorem Theme.styleFor_congr (theme : Theme) {t u : Token} (h : t.sameTags u = true) :
    theme.styleFor t = theme.styleFor u := by
  have htags := Token.sameTags_iff.mp h
  unfold Theme.styleFor
  simp only [htags]

/-! ## The wrapper of a style -/

/-- A wrapper inside another. -/
def Wrapper.around (outer inner : Wrapper) : Wrapper :=
  ⟨outer.opening ++ inner.opening, inner.closing ++ outer.closing⟩

theorem Wrapper.wrap_around (outer inner : Wrapper) (text : List Char) :
    (outer.around inner).wrap text = outer.wrap (inner.wrap text) := by
  simp [Wrapper.wrap, Wrapper.around]

/-- All that the style of a rule puts around a text. -/
def ThemeRule.wrapper (rule : ThemeRule) (m : Markup) : Wrapper :=
  let w := m.color rule.color
  let w := if rule.italic then m.italic.around w else w
  if rule.bold then m.bold.around w else w

/-- All that a theme puts around the text of a token. -/
def Theme.wrapperFor (theme : Theme) (m : Markup) (t : Token) : Wrapper :=
  match theme.ruleFor t.tags with
  | none => ⟨[], []⟩
  | some rule => rule.wrapper m

theorem ThemeRule.apply_eq (rule : ThemeRule) (m : Markup) (text : List Char) :
    rule.apply m text = (rule.wrapper m).wrap text := by
  unfold ThemeRule.apply ThemeRule.wrapper
  by_cases hitalic : rule.italic = true
  · by_cases hbold : rule.bold = true
    · simp [hitalic, hbold, Wrapper.wrap_around]
    · simp [hitalic, hbold, Wrapper.wrap_around]
  · by_cases hbold : rule.bold = true
    · simp [hitalic, hbold, Wrapper.wrap_around]
    · simp [hitalic, hbold]

/-- A token in markup is its escaped text in the wrapper of its style. -/
theorem renderToken_eq (theme : Theme) (m : Markup) (t : Token) :
    renderToken theme m Markup.escape t = (theme.wrapperFor m t).wrap (Markup.escape t.content) := by
  unfold renderToken Theme.wrapperFor
  cases theme.ruleFor t.tags with
  | none => simp [Wrapper.wrap]
  | some rule => exact rule.apply_eq m _

theorem Theme.wrapperFor_congr (theme : Theme) (m : Markup) {t u : Token}
    (h : t.sameTags u = true) : theme.wrapperFor m t = theme.wrapperFor m u := by
  unfold Theme.wrapperFor
  rw [theme.ruleFor_congr h]

/-! ## Renderings that look the same -/

/-- What a theme and a markup make of some tokens looks like what they make of others: every character is
under the same rule, a reader sees the same characters in the same styles, and the texts differ in
nothing but that some tokens of one wrapper have it once around them all. -/
structure LooksLike (theme : Theme) (m : Markup) (ts us : List Token) : Prop where
  rules : charsWith (fun t => theme.ruleFor t.tags) ts = charsWith (fun t => theme.ruleFor t.tags) us
  read : m.read (render ts theme m) = some (theme.styledChars us) ∧
    m.read (render us theme m) = some (theme.styledChars us)
  wrappers : ∃ runs : List (Wrapper × List Token), us = runs.flatMap (·.2) ∧
    (∀ run ∈ runs, run.2 ≠ [] ∧ ∀ u ∈ run.2, theme.wrapperFor m u = run.1) ∧
    render us theme m = runs.flatMap (fun run => run.2.flatMap fun u =>
      run.1.wrap (Markup.escape u.content)) ∧
    render ts theme m = runs.flatMap fun run => run.1.wrap (Markup.escape (contents run.2))

section LooksLike

variable {m : Markup} {theme : Theme}

/-- The wrapper goes around each token of a run before it is merged, and around all of it after. -/
theorem exists_wrappers : ∀ {ts : List Token} {runs : List (List Token)}, List.Forall₂ Merges ts runs →
    ∃ wrapped : List (Wrapper × List Token), runs.flatten = wrapped.flatMap (·.2) ∧
      (∀ run ∈ wrapped, run.2 ≠ [] ∧ ∀ u ∈ run.2, theme.wrapperFor m u = run.1) ∧
      render runs.flatten theme m = wrapped.flatMap (fun run => run.2.flatMap fun u =>
        run.1.wrap (Markup.escape u.content)) ∧
      render ts theme m = wrapped.flatMap fun run => run.1.wrap (Markup.escape (contents run.2))
  | _, _, .nil => ⟨[], rfl, by simp, rfl, rfl⟩
  | t :: ts, run :: runs, .cons h hs => by
    obtain ⟨wrapped, hflatten, hall, heach, honce⟩ := exists_wrappers hs
    have hwrapper : ∀ u ∈ run, theme.wrapperFor m u = theme.wrapperFor m t := by
      intro u hu
      exact theme.wrapperFor_congr m (h.sameTags u hu)
    have hrun : render run theme m =
        run.flatMap fun u => (theme.wrapperFor m t).wrap (Markup.escape u.content) := by
      refine List.flatMap_congr fun u hu => ?_
      show renderToken theme m Markup.escape u = _
      rw [renderToken_eq, hwrapper u hu]
    refine ⟨(theme.wrapperFor m t, run) :: wrapped, ?_, ?_, ?_, ?_⟩
    · rw [List.flatten_cons, List.flatMap_cons, hflatten]
    · intro w hw
      rcases List.mem_cons.mp hw with rfl | hw
      · exact ⟨h.ne_nil, hwrapper⟩
      · exact hall w hw
    · rw [List.flatten_cons, Markup.render_append, List.flatMap_cons, heach, hrun]
    · rw [Markup.render_cons, List.flatMap_cons, honce, renderToken_eq, h.content]

/-- **Merged runs look as their tokens do.** -/
theorem looksLike_of_merges (hm : m ∈ Markup.builtin) {ts : List Token} {runs : List (List Token)}
    (h : List.Forall₂ Merges ts runs) : LooksLike theme m ts runs.flatten where
  rules := charsWith_of_merges (fun _ _ hsame => theme.ruleFor_congr hsame) h
  read := by
    have hstyles : theme.styledChars ts = theme.styledChars runs.flatten :=
      charsWith_of_merges (fun _ _ hsame => theme.styleFor_congr hsame) h
    have hts := (Markup.reads_render hm theme ts).read
    rw [hstyles] at hts
    exact ⟨hts, (Markup.reads_render hm theme runs.flatten).read⟩
  wrappers := exists_wrappers h

theorem looksLike_combine (hm : m ∈ Markup.builtin) (ts : List Token) :
    LooksLike theme m (combine ts) ts := by
  have h : LooksLike theme m (combine ts) (ts.splitBy Token.sameTags).flatten :=
    looksLike_of_merges hm (combine_merges ts)
  rwa [List.flatten_splitBy] at h

/-- Tokens look as they do: each of them is a run. -/
theorem LooksLike.refl (hm : m ∈ Markup.builtin) (ts : List Token) : LooksLike theme m ts ts := by
  have hruns : List.Forall₂ Merges ts (ts.map fun t => [t]) :=
    List.forall₂_map_right_iff.mpr (List.forall₂_same.mpr fun t _ => Merges.single t)
  have h : LooksLike theme m ts (ts.map fun t => [t]).flatten := looksLike_of_merges hm hruns
  rwa [← List.flatMap_def, List.flatMap_singleton'] at h

end LooksLike

/-! ## Runs of the program -/

namespace CommandLine

/-- To ask for no merging changes nothing else in the settings. -/
theorem options_noCombine (room : Nat) (a : Arguments) (config : Table Value) :
    { a with noCombine := true }.options room config =
      (a.options room config).map fun o => { o with combined := false } := by
  have hmarkup : markupSetting room { a with noCombine := true } config = markupSetting room a config :=
    rfl
  unfold Arguments.options
  rw [hmarkup]
  cases stringSetting config "grammar" .grammarNotString with
  | error e => rfl
  | ok grammar =>
    cases stringSetting config "theme" .themeNotString with
    | error e => rfl
    | ok theme =>
      cases markupSetting room a config with
      | error e => rfl
      | ok m =>
        cases combineSetting config with
        | error e => rfl
        | ok combined =>
          cases extensionSettings room config with
          | error e => rfl
          | ok extensions =>
            simp [bind, Except.bind, pure, Except.pure, Except.map, Arguments.inputPath,
              Arguments.configDirectory, Arguments.inputDirectory]

/-- Two runs that differ in nothing but whether runs of tokens are merged fail alike, or give texts that
look the same. -/
theorem render_looksLike {o : Options} (hm : o.markup ∈ Markup.builtin) (stack : Stack) (r : Registry)
    (fs : Files) (stdin : List UInt8) :
    (∃ e, o.render stack r fs stdin = .error e ∧
      { o with combined := false }.render stack r fs stdin = .error e) ∨
    ∃ theme ts us x y, o.resolveTheme stack fs = .ok theme ∧ o.render stack r fs stdin = .ok x ∧
      { o with combined := false }.render stack r fs stdin = .ok y ∧
      x.text = render ts theme o.markup ∧ y.text = render us theme o.markup ∧
      LooksLike theme o.markup ts us := by
  rcases render_cases stack o r fs stdin with
    ⟨e, herror⟩ | ⟨_, _, theme, _, raw, _, _, htheme, _, _, hok⟩
  · exact Or.inl ⟨e, herror o.combined, herror false⟩
  · obtain ⟨log, hmerged⟩ := hok o.combined
    obtain ⟨log', hraw⟩ := hok false
    refine Or.inr ⟨theme, _, raw, _, _, htheme, hmerged, hraw, rfl, rfl, ?_⟩
    cases o.combined with
    | true => exact looksLike_combine hm raw
    | false => exact LooksLike.refl hm raw

end CommandLine

/-- **Combining never changes how a character looks**, for all tokens, themes and built-in markups: not
under which rule of the theme it comes, and not what a reader sees.  The texts differ only in where the
wrappers are split.  The same holds of the tokens of a source, which fail alike if they do, and of a run
of the program with and without the request not to combine. -/
theorem combine_looksLike :
    (∀ m ∈ Markup.builtin, ∀ theme : Theme,
      (∀ ts : List Token, LooksLike theme m (combine ts) ts) ∧
      ∀ (g : Grammar) (source : List Char),
        (∃ e, ∀ combined, tokenize g source combined = .error e) ∨
        ∃ ts us, tokenize g source true = .ok ts ∧ tokenize g source false = .ok us ∧
          LooksLike theme m ts us) ∧
    ∀ (room : Nat) (a : CommandLine.Arguments) (config : Table Value) (o : CommandLine.Options),
      a.options room config = .ok o →
      ∃ o', { a with noCombine := true }.options room config = .ok o' ∧ o'.combined = false ∧
        ∀ (stack : Stack) (r : Registry) (fs : Files) (stdin : List UInt8),
          (∃ e, o.render stack r fs stdin = .error e ∧ o'.render stack r fs stdin = .error e) ∨
          ∃ theme ts us x y, o.resolveTheme stack fs = .ok theme ∧ o.render stack r fs stdin = .ok x ∧
            o'.render stack r fs stdin = .ok y ∧ x.text = render ts theme o.markup ∧
            y.text = render us theme o.markup ∧ LooksLike theme o.markup ts us := by
  refine ⟨fun m hm theme => ⟨looksLike_combine hm, fun g source => ?_⟩, fun room a config o h => ?_⟩
  · unfold tokenize
    cases rawTokens g source with
    | error e => exact Or.inl ⟨e, fun _ => rfl⟩
    | ok raw => exact Or.inr ⟨combine raw, raw, rfl, rfl, looksLike_combine hm raw⟩
  · have hno := CommandLine.options_noCombine room a config
    rw [h] at hno
    exact ⟨{ o with combined := false }, hno, rfl,
      CommandLine.render_looksLike (CommandLine.of_options h).2.2.2⟩

/-- Two tokens whose tags stand in another order, under a theme with two rules for one of the tags: both
come under the first rule, which goes once around the merged token.  The settings of a run that asks for
nothing special. -/
theorem combine_looksLike_reordered :
    let theme : Theme := ⟨"twice", [{ tag := "index", color := ⟨1, 2, 171⟩, bold := true },
      { tag := "string", color := ⟨0, 0, 0⟩ }, { tag := "index", color := ⟨9, 9, 9⟩ }]⟩
    let ts : List Token := [⟨['<'], ["string", "index"], by simp, by decide⟩,
      ⟨['b'], ["index", "string"], by simp, by decide⟩]
    let styled : Style := { color := some ⟨1, 2, 171⟩, bold := true }
    Markup.html ∈ Markup.builtin ∧
    render ts theme .html = ("<b><span style=\"color: #0102AB\">&lt;</span></b>" ++
      "<b><span style=\"color: #0102AB\">b</span></b>").toList ∧
    render (combine ts) theme .html = "<b><span style=\"color: #0102AB\">&lt;b</span></b>".toList ∧
    Markup.html.read (render (combine ts) theme .html) = some [('<', styled), ('b', styled)] ∧
    ∃ o o' : CommandLine.Options, ({} : CommandLine.Arguments).options 1000 [] = .ok o ∧
      o.combined = true ∧ ({ noCombine := true } : CommandLine.Arguments).options 1000 [] = .ok o' ∧
      o'.combined = false := by
  intro theme ts styled
  have hm : Markup.html ∈ Markup.builtin := List.mem_cons_self
  have hread := ((combine_looksLike.1 .html hm theme).1 ts).read.1
  obtain ⟨o', ho', hcombined, _⟩ := combine_looksLike.2 1000 {} [] _ rfl
  exact ⟨hm, rfl, rfl, hread, _, o', rfl, rfl, ho', hcombined⟩

end Highlight
