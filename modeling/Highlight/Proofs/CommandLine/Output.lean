import Highlight.Proofs.CommandLine.Exit
import Highlight.Proofs.Files
import Highlight.Proofs.Grammar.Builtin
import Highlight.Proofs.Style.PlainText
import Highlight.Proofs.Text.Utf8

/-!
# What runs write

A run writes all of its result or nothing (`runWatched_output`).

* A run that ends with another code than 0 is quiet: its standard output is empty and the files are as they
  were (`Quiet`).  It was refused before it was to render (`of_request`), or could not render
  (`quiet_of_render`).
* A run that renders and ends with 0 has sent one text to one place (`Sent`, `sent_of_render`): the file
  that the arguments name, or else the standard output.
* Without tags and entities the text is the input with its line ends unified (`plain_of_render`), because
  the built-in grammars keep every character, merging tokens does too, and every markup can be undone.
-/

namespace Highlight.CommandLine

open Text

/-! ## Outputs -/

/-- Nothing is written, neither to the standard output nor to a file. -/
structure Effect.Quiet (fs : Files) (e : Effect) : Prop where
  stdout : e.stdout = []
  files : e.files = fs

/-- One text is written to one place.  If that is a file, the text lies there, it can be read back unless the
system refuses to read the place, and what lies at every other place is as it was. -/
inductive Sent (fs : Files) (text : List Char) (e : Effect) : Option Path → Prop
  | stdout (hstdout : e.stdout = text) (hfiles : e.files = fs) : Sent fs text e none
  | file {p : Path} {place : List String} (hstdout : e.stdout = [])
      (hlocate : fs.locate p = .ok place)
      (hnode : e.files.node? place = some (.file (encodeUtf8 text) (.written fs.writes)))
      (hread : fs.refuses .read place = none → e.files.read p = .ok (encodeUtf8 text))
      (hothers : ∀ other ≠ place, e.files.node? other = fs.node? other) : Sent fs text e (some p)

theorem Effect.Quiet.after {fs : Files} {e : Effect} (h : e.Quiet fs) (log : String) :
    (e.after log).Quiet fs := ⟨h.stdout, h.files⟩

theorem Sent.after {fs : Files} {text : List Char} {e : Effect} {output : Option Path}
    (h : Sent fs text e output) (log : String) : Sent fs text (e.after log) output := by
  cases h with
  | stdout hstdout hfiles => exact .stdout hstdout hfiles
  | file hstdout hlocate hnode hread hothers => exact .file hstdout hlocate hnode hread hothers

/-! ## Starting -/

/-- Before it renders, a run does nothing to the files, and writes to the standard output only what it was
asked to list. -/
theorem of_request {stack : Stack} {argv : List String} {r : Registry} {fs : Files} {e : Effect}
    (h : request stack argv r fs = .done e) : e.files = fs ∧ (e.exit = .ok 0 ∨ e.stdout = []) := by
  unfold request at h
  dsimp only at h
  split at h
  · cases h
    exact ⟨rfl, Or.inl rfl⟩
  · cases h
    exact ⟨rfl, Or.inr rfl⟩
  split at h
  · cases h
    exact ⟨rfl, Or.inl rfl⟩
  -- nothing but the help and the list is written to the standard output
  suffices hquiet : e.Quiet fs from ⟨hquiet.files, Or.inr hquiet.stdout⟩
  split at h
  case h_7 =>
    split at h
    · cases h
      exact ⟨rfl, rfl⟩
    split at h
    · cases h
    split at h
    · cases h
      exact ⟨rfl, rfl⟩
    · cases h
  all_goals
    cases h
    exact ⟨rfl, rfl⟩

/-! ## One rendering -/

section Once

variable {stack : Stack} {o : Options} {r : Registry} {fs : Files} {stdin : List UInt8}

/-- A run that cannot render is quiet. -/
theorem quiet_of_render {e : RenderError} (h : o.render stack r fs stdin = .error e) :
    (o.runOnce stack r fs stdin).Quiet fs := by
  unfold Options.runOnce
  rw [h]
  cases e <;> exact ⟨rfl, rfl⟩

/-- A text is sent to the output, or the output cannot be written. -/
theorem sent_of_deliver {text : List Char} {code : Nat} (h : (o.deliver fs text).exit = .ok code) :
    Sent fs text (o.deliver fs text) o.output := by
  unfold Options.deliver at h ⊢
  cases houtput : o.output with
  | none => exact .stdout rfl rfl
  | some p =>
    rw [houtput] at h
    dsimp only at h ⊢
    cases hwrite : fs.write p (encodeUtf8 text) with
    | error e =>
      rw [hwrite] at h
      cases h
    | ok files =>
      rw [hwrite] at h
      obtain ⟨place, -, hlocate, -, hnode, -, hothers⟩ := Files.node?_write hwrite
      exact .file rfl hlocate hnode (Files.read_write hwrite hlocate) hothers

/-- A run that renders sends its text, or its output cannot be written. -/
theorem sent_of_render {rendered : Rendered} {code : Nat} (h : o.render stack r fs stdin = .ok rendered)
    (hexit : (o.runOnce stack r fs stdin).exit = .ok code) :
    Sent fs rendered.text (o.runOnce stack r fs stdin) o.output := by
  unfold Options.runOnce at hexit ⊢
  rw [h] at hexit ⊢
  exact (sent_of_deliver hexit).after rendered.log

/-- **Without tags and entities, what is rendered is the input with its line ends unified.** -/
theorem plain_of_render (hm : o.markup ∈ Markup.builtin) {rendered : Rendered}
    (h : o.render stack .builtin fs stdin = .ok rendered) :
    ∃ bytes text, o.inputBytes fs stdin = .ok bytes ∧ decodeUtf8 bytes = .ok text ∧
      Markup.unescape (Markup.stripTags rendered.text) = unifyLineEnds text := by
  obtain ⟨source, name, theme, g, raw, hsource, -, -, hget, htokens, htext⟩ := exists_of_render h
  obtain ⟨bytes, text, hbytes, hdecode, rfl⟩ := exists_of_source hsource
  obtain ⟨b, rfl⟩ := base_of_get_builtin hget
  have hraw : contents raw = unifyLineEnds text := b.byTable.contents_rawTokens htokens
  have hshown : contents (if o.combined then combine raw else raw) = contents raw := by
    split
    · exact contents_combine raw
    · rfl
  refine ⟨bytes, text, hbytes, hdecode, ?_⟩
  rw [htext, Markup.unescape_stripTags_render hm, hshown, hraw]

end Once

/-! ## Runs -/

/-- The bytes that the arguments name as the input: those of the standard input for a hyphen, else those of
a file. -/
def Arguments.Reads (a : Arguments) (fs : Files) (stdin bytes : List UInt8) : Prop :=
  if a.input = "-" then bytes = stdin else fs.read (.ofString a.input) = .ok bytes

theorem reads_of_inputBytes {a : Arguments} {o : Options} {fs : Files} {stdin bytes : List UInt8}
    (hinput : o.input = a.inputPath) (h : o.inputBytes fs stdin = .ok bytes) :
    a.Reads fs stdin bytes := by
  unfold Options.inputBytes at h
  unfold Arguments.inputPath at hinput
  unfold Arguments.Reads
  split
  · next hstdin =>
    rw [hinput, if_pos hstdin] at h
    exact (Except.ok.inj h).symm
  · next hfile =>
    rw [hinput, if_neg hfile] at h
    exact Except.mapError_eq_ok.mp h

section Run

variable {frames : Stacks} {argv : List String} {fs : Files} {stdin : List UInt8}
  {changes : List (List Edit)}

/-- **A run that ends with another code than 0 is quiet.** -/
theorem quiet_of_runWatched {r : Registry} {code : Nat} (hcode : code ≠ 0)
    (h : (runWatched frames argv r fs stdin changes).2 = .ok code) :
    ∃ e, (runWatched frames argv r fs stdin changes).1 = [(fs, e)] ∧ e.Quiet fs := by
  have hends := runWatched_ends frames argv r fs stdin changes
  rw [h] at hends
  cases hends with
  | informed | delivered | watched => exact absurd rfl hcode
  | unrendered hstarts hwatch hreason =>
    obtain ⟨name, hname⟩ := hstarts.2.1
    obtain ⟨log, hrun⟩ := runWatched_eq_of_starts hstarts hwatch
    rw [hrun]
    exact ⟨_, rfl, (quiet_of_render (hreason.render_eq hname)).after log⟩
  | refused hrefused =>
    obtain ⟨e, hrequest, hexit⟩ := request_of_refused hrefused
    rw [runWatched_eq_of_done hrequest]
    obtain ⟨hfiles, hzero | hstdout⟩ := of_request hrequest
    · cases hexit.symm.trans hzero
    · exact ⟨e, rfl, hstdout, hfiles⟩

/-- A run that neither lists nor watches and ends with 0 has rendered. -/
theorem starts_of_runWatched {r : Registry} {a : Arguments} (hargs : Arguments.ofList argv = .ok a)
    (hlist : a.list = false) (hwatch : a.watch = false)
    (h : (runWatched frames argv r fs stdin changes).2 = .ok 0) :
    ∃ o config rendered, Starts frames.config argv r fs o ∧
      a.options frames.config.showing config = .ok o ∧
      o.render frames.theme r fs stdin = .ok rendered := by
  have hoptions : ∀ {o}, Starts frames.config argv r fs o →
      ∃ config, a.options frames.config.showing config = .ok o := by
    rintro o ⟨⟨a', config, ⟨hargs', -⟩, -, hoptions⟩, -, -⟩
    obtain rfl := Except.ok.inj (hargs.symm.trans hargs')
    exact ⟨_, hoptions⟩
  have hends := runWatched_ends frames argv r fs stdin changes
  rw [h] at hends
  cases hends with
  | informed hinforms =>
    rcases hinforms with hhelp | ⟨a', hargs', hlist'⟩
    · cases hargs.symm.trans hhelp
    · obtain rfl := Except.ok.inj (hargs.symm.trans hargs')
      simp [hlist] at hlist'
  | delivered hstarts hwatch' hrender =>
    obtain ⟨config, hconfig⟩ := hoptions hstarts
    exact ⟨_, config, _, hstarts, hconfig, hrender⟩
  | watched hstarts hwatch' =>
    obtain ⟨config, hconfig⟩ := hoptions hstarts
    obtain ⟨-, -, hsame, -⟩ := of_options hconfig
    exact absurd (hsame.symm.trans hwatch') (by simp [hwatch])

end Run

/-- **A run writes all of its result or nothing**, for all arguments and files.  If it ends with another
code than 0, it is quiet.  If it ends with 0 and was to render once, whatever its settings, it has sent one
text to one place: to the file that the arguments name, and else to the standard output.  Without tags
and entities this is the text of the input, with a line feed for every line end.  The input is then UTF-8:
its bytes are those of its text. -/
theorem runWatched_output (frames : Stacks) (argv : List String) (fs : Files) (stdin : List UInt8)
    (changes : List (List Edit)) :
    let looks := (runWatched frames argv .builtin fs stdin changes).1
    let exit := (runWatched frames argv .builtin fs stdin changes).2
    (∀ code, exit = .ok code → code ≠ 0 → ∃ e, looks = [(fs, e)] ∧ e.Quiet fs) ∧
    ∀ a, Arguments.ofList argv = .ok a → a.list = false → a.watch = false → exit = .ok 0 →
      ∃ e out bytes text, looks = [(fs, e)] ∧ Sent fs out e ((given a.output).map .ofString) ∧
        a.Reads fs stdin bytes ∧ decodeUtf8 bytes = .ok text ∧ encodeUtf8 text = bytes ∧
        Markup.unescape (Markup.stripTags out) = unifyLineEnds text := by
  intro looks exit
  refine ⟨fun code h hcode => quiet_of_runWatched hcode h, fun a hargs hlist hwatch h => ?_⟩
  obtain ⟨o, config, rendered, hstarts, hconfig, hrender⟩ := starts_of_runWatched hargs hlist hwatch h
  obtain ⟨hinput, houtput, hsame, hmarkup⟩ := of_options hconfig
  obtain ⟨log, hrun⟩ : ∃ log, runWatched frames argv .builtin fs stdin changes =
      ([(fs, (o.runOnce frames.theme .builtin fs stdin).after log)],
        (o.runOnce frames.theme .builtin fs stdin).exit) :=
    runWatched_eq_of_starts hstarts (hsame.trans hwatch)
  have hexit : (o.runOnce frames.theme .builtin fs stdin).exit = .ok 0 :=
    (congrArg Prod.snd hrun).symm.trans h
  obtain ⟨bytes, text, hbytes, hdecode, hplain⟩ := plain_of_render hmarkup hrender
  exact ⟨_, rendered.text, bytes, text, congrArg Prod.fst hrun,
    houtput ▸ (sent_of_render hrender hexit).after log, reads_of_inputBytes hinput hbytes, hdecode,
    encodeUtf8_of_decodeUtf8 hdecode, hplain⟩

/-- Files with a text of two lines whose first ends in two characters. -/
def twoLines : Files where
  nodes := [(["a.json"], .file [0x5B, 0x0D, 0x0A, 0x31] (.time 1))]

/-- A run that writes to a file, and one that cannot decode its input. -/
theorem runWatched_output_file :
    let argv := ["a.json", "-o", "b.html", "-m", "html", "--debug"]
    (∃ e out, runWatched roomy argv .builtin twoLines [] [] = ([(twoLines, e)], .ok 0) ∧
      Sent twoLines out e (some ⟨.relative, ["b.html"]⟩) ∧
      Markup.unescape (Markup.stripTags out) = ['[', '\n', '1']) ∧
    ∃ e, runWatched roomy ["-g", "json"] .builtin twoLines [0xFF] [] = ([(twoLines, e)], .ok 1) ∧
      e.Quiet twoLines := by
  intro argv
  constructor
  · have hargs : Arguments.ofList argv = .ok
        { input := "a.json", output := some "b.html", markup := some "html", debug := true } :=
      Except.toOption_eq_some.mp (by decide +kernel)
    have hexit : (runWatched roomy argv .builtin twoLines [] []).2 = .ok 0 :=
      Except.toOption_eq_some.mp (by decide +kernel)
    obtain ⟨-, hsends⟩ := runWatched_output roomy argv twoLines [] []
    obtain ⟨e, out, bytes, text, hlooks, hsent, hreads, hdecode, -, hplain⟩ :=
      hsends _ hargs rfl rfl hexit
    obtain rfl : [0x5B, 0x0D, 0x0A, 0x31] = bytes := Except.ok.inj hreads
    obtain rfl : ['[', '\r', '\n', '1'] = text := Except.ok.inj hdecode
    exact ⟨e, out, Prod.ext hlooks hexit, hsent, hplain⟩
  · have hexit : (runWatched roomy ["-g", "json"] .builtin twoLines [0xFF] []).2 = .ok 1 :=
      Except.toOption_eq_some.mp (by decide +kernel)
    obtain ⟨hquiet, -⟩ := runWatched_output roomy ["-g", "json"] twoLines [0xFF] []
    obtain ⟨e, hlooks, hnothing⟩ := hquiet 1 hexit (by decide)
    exact ⟨e, Prod.ext hlooks hexit, hnothing⟩

end Highlight.CommandLine
