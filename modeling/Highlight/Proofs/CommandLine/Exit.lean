import Highlight.CommandLine.Watch
import Highlight.Proofs.CommandLine.Rendering
import Highlight.Proofs.CommandLine.Request

/-!
# How runs end

The end of a run is known from what it asks for, and then from what its renderings come to.

* `runOnce_exit`: a run that renders once ends with a code, unless its rendering crashes or its output
  cannot be written.
* `watchFrom_stops`: watching goes on until the last look, unless a look breaks off; by induction on the
  changes between the looks.
* `runWatched_ends`: every run ends in one of the ways of `Ends`, each with what stands behind it.

Three failures of a run that does not watch are not reported: a configuration that cannot be read as a
text or is beyond a limit, a rendering that crashes, and an output that cannot be written.
-/

namespace Highlight.CommandLine

open Text

/-! ## One rendering -/

/-- How a run that renders once ends if its rendering fails. -/
def RenderError.exit : RenderError → Except Break Nat
  | .grammar _ | .theme _ | .undecodable _ | .unreadable _ => .ok 1
  | .options e => .error (.options e)
  | .crash c => .error (.crash c)

section Once

variable {stack : Stack} {o : Options} {r : Registry} {fs : Files} {stdin : List UInt8} {name : String}

theorem runOnce_of_error {e : RenderError} (h : o.render stack r fs stdin = .error e) :
    (o.runOnce stack r fs stdin).exit = e.exit := by
  simp only [Options.runOnce, h]
  cases e <;> rfl

/-- **One rendering ends with 1 if there is nothing to write, and else with 0**, unless the rendering
crashes or the output cannot be written. -/
theorem runOnce_exit (hname : o.grammarName r = .ok name) :
    ((o.runOnce stack r fs stdin).exit = .ok 1 ∧
      ∃ e, o.Unrendered stack r fs stdin e ∧ ∀ c, e ≠ .crash c) ∨
    ((o.runOnce stack r fs stdin).exit = .ok 0 ∧
      ∃ rendered, o.render stack r fs stdin = .ok rendered) ∨
    ∃ b, (o.runOnce stack r fs stdin).exit = .error b ∧
      (o.Undelivered stack r fs stdin b ∨
        ∃ c, o.Unrendered stack r fs stdin (.crash c) ∧ b = .crash c) := by
  cases hrender : o.render stack r fs stdin with
  | error e =>
    have hreason := unrendered_of_render hname hrender
    have hexit := runOnce_of_error hrender
    cases e with
    | crash c => exact Or.inr (Or.inr ⟨.crash c, hexit, Or.inr ⟨c, hreason, rfl⟩⟩)
    | options f => exact absurd rfl (hreason.ne_options f)
    | grammar | theme | undecodable | unreadable =>
      exact Or.inl ⟨hexit, _, hreason, nofun⟩
  | ok rendered =>
    refine Or.inr ?_
    unfold Options.runOnce
    rw [hrender]
    rcases deliver_exit o fs rendered.text with hexit | ⟨p, f, houtput, hwrite, hexit⟩
    · exact Or.inl ⟨hexit, rendered, rfl⟩
    · exact Or.inr ⟨.ofFile f, hexit, Or.inl ⟨rendered, p, f, hrender, houtput, hwrite, rfl⟩⟩

theorem runOnce_of_undelivered {b : Break} (h : o.Undelivered stack r fs stdin b) :
    (o.runOnce stack r fs stdin).exit = .error b := by
  obtain ⟨rendered, p, f, hrender, houtput, hwrite, rfl⟩ := h
  simp only [Options.runOnce, hrender, Effect.after, Options.deliver, houtput, hwrite]

end Once

/-! ## Watching -/

/-- What breaks a rendering off while the input is watched: the input cannot be read, or it cannot be found
out whether a theme file is meant, or the rendering crashes, or the output cannot be written. -/
inductive Options.BreaksOff (stack : Stack) (o : Options) (r : Registry) (fs : Files) : Break → Prop
  | unreadable {e : FileError} (hreason : o.Unrendered stack r fs [] (.unreadable e)) :
      BreaksOff stack o r fs (.file e)
  | crash {c : Crash} (hreason : o.Unrendered stack r fs [] (.crash c)) :
      BreaksOff stack o r fs (.crash c)
  | undelivered {b : Break} (houtput : o.Undelivered stack r fs [] b) : BreaksOff stack o r fs b

/-- A look at the input breaks off: asking for its time crashes, or its rendering breaks off. -/
def Options.LookBreaks (stack : Stack) (o : Options) (r : Registry) (input : Path) (fs : Files)
    (b : Break) : Prop :=
  (∃ c, fs.stamp input = .error (.crash c) ∧ b = .crash c) ∨ o.BreaksOff stack r fs b

section Watch

variable {stack : Stack} {o : Options} {r : Registry} {input : Path} {name : String}

theorem renderChange_exit (hname : o.grammarName r = .ok name) (fs : Files) :
    (o.renderChange stack r fs input).exit = .ok 0 ∨
    ∃ b, (o.renderChange stack r fs input).exit = .error b ∧ o.BreaksOff stack r fs b := by
  unfold Options.renderChange
  cases hrender : o.render stack r fs [] with
  | error e =>
    have hreason := unrendered_of_render hname hrender
    cases e with
    | unreadable e => exact Or.inr ⟨_, rfl, .unreadable hreason⟩
    | crash c => exact Or.inr ⟨_, rfl, .crash hreason⟩
    | options f => exact absurd rfl (hreason.ne_options f)
    | grammar | theme | undecodable => exact Or.inl rfl
  | ok rendered =>
    rcases deliver_exit o fs rendered.text with hexit | ⟨p, f, houtput, hwrite, hexit⟩
    · refine Or.inl ?_
      simp only [Effect.after, hexit]
    · refine Or.inr ⟨.ofFile f, ?_, .undelivered ⟨rendered, p, f, hrender, houtput, hwrite, rfl⟩⟩
      simp only [Effect.after, hexit]

/-- A look at the input reports what it can and goes on, or breaks off. -/
theorem look_exit (hname : o.grammarName r = .ok name) (stack : Stack) (fs : Files) (input : Path)
    (w : Watching) :
    (o.look stack r fs input w).1.exit = .ok 0 ∨
    ∃ b, (o.look stack r fs input w).1.exit = .error b ∧ o.LookBreaks stack r input fs b := by
  unfold Options.look
  split
  · exact Or.inl rfl
  · next c hstamp => exact Or.inr ⟨_, rfl, Or.inl ⟨c, hstamp, rfl⟩⟩
  · split
    · exact Or.inl rfl
    · rcases renderChange_exit hname fs with hexit | ⟨b, hexit, hbreaks⟩
      · exact Or.inl hexit
      · exact Or.inr ⟨b, hexit, Or.inr hbreaks⟩

/-- A look, and the looks after it unless it breaks off. -/
theorem watchFrom_cons (w : Watching) (fs : Files) (log : String) (edits : List Edit)
    (later : List (List Edit)) :
    o.watchFrom stack r input w fs log (edits :: later) =
      let e := (o.look stack r fs input w).1
      match e.exit with
      | .error b => ([(fs, e.after log)], .error b)
      | .ok _ =>
        let rest := o.watchFrom stack r input (o.look stack r fs input w).2
          (edits.foldl Edit.apply e.files) "" later
        ((fs, e.after log) :: rest.1, rest.2) :=
  rfl

/-- **Looks follow one another as long as none breaks off**, one more than there are changes. -/
theorem watchFrom_stops (hname : o.grammarName r = .ok name) (changes : List (List Edit))
    (w : Watching) (fs : Files) (log : String) :
    let looks := (o.watchFrom stack r input w fs log changes).1
    let exit := (o.watchFrom stack r input w fs log changes).2
    (exit = .ok 0 ∧ looks.length = changes.length + 1 ∧ ∀ l ∈ looks, l.2.exit = .ok 0) ∨
    ∃ b before fs' e, exit = .error b ∧ looks = before ++ [(fs', e)] ∧ e.exit = .error b ∧
      o.LookBreaks stack r input fs' b := by
  induction changes generalizing w fs log with
  | nil =>
    rcases look_exit hname stack fs input w with hexit | ⟨b, hexit, hbreaks⟩
    · exact Or.inl ⟨hexit, rfl, fun l hl => by rw [List.mem_singleton.mp hl]; exact hexit⟩
    · exact Or.inr ⟨b, [], fs, _, hexit, rfl, hexit, hbreaks⟩
  | cons edits later ih =>
    rw [watchFrom_cons]
    rcases look_exit hname stack fs input w with hexit | ⟨b, hexit, hbreaks⟩
    · simp only [hexit]
      rcases ih (o.look stack r fs input w).2
          (edits.foldl Edit.apply (o.look stack r fs input w).1.files) "" with
        ⟨hend, hlength, hall⟩ | ⟨b, before, fs', e, hend, hlooks, hlast, hbreaks⟩
      · exact Or.inl ⟨hend, by simp only [List.length_cons, hlength],
          List.forall_mem_cons.mpr ⟨hexit, hall⟩⟩
      · exact Or.inr ⟨b, _ :: before, fs', e, hend, by rw [hlooks]; rfl, hlast, hbreaks⟩
    · simp only [hexit]
      exact Or.inr ⟨b, [], fs, _, rfl, rfl, hexit, hbreaks⟩

/-- Watching ends with 0 unless one of its looks breaks off. -/
theorem watchFrom_exit (hname : o.grammarName r = .ok name) (changes : List (List Edit)) (fs : Files)
    (w : Watching) (log : String) :
    (o.watchFrom stack r input w fs log changes).2 = .ok 0 ∨
    ∃ b, (o.watchFrom stack r input w fs log changes).2 = .error b ∧
      ∃ fs' ∈ (o.watchFrom stack r input w fs log changes).1.map (·.1),
        o.LookBreaks stack r input fs' b := by
  rcases watchFrom_stops hname changes w fs log with
    ⟨hend, _⟩ | ⟨b, before, fs', e, hend, hlooks, _, hbreaks⟩
  · exact Or.inl hend
  · refine Or.inr ⟨b, hend, fs', ?_, hbreaks⟩
    rw [hlooks]
    exact List.mem_map.mpr ⟨(fs', e), List.mem_append_right before List.mem_cons_self, rfl⟩

end Watch

/-! ## Runs -/

section Run

variable {frames : Stacks} {argv : List String} {r : Registry} {fs : Files} {stdin : List UInt8}
  {changes : List (List Edit)}

/-- While nothing else happens to the files, a run ends in the same way. -/
theorem exit_run (frames : Stacks) (argv : List String) (r : Registry) (fs : Files)
    (stdin : List UInt8) :
    (run frames argv r fs stdin).exit = (runWatched frames argv r fs stdin []).2 := by
  unfold run runWatched
  cases request frames.config argv r fs <;> rfl

theorem runWatched_eq_of_done {e : Effect} (h : request frames.config argv r fs = .done e) :
    runWatched frames argv r fs stdin changes = ([(fs, e)], e.exit) := by
  simp only [runWatched, h]

theorem runWatched_eq_of_once {log : String} {o : Options}
    (h : request frames.config argv r fs = .once log o) :
    runWatched frames argv r fs stdin changes =
      ([(fs, (o.runOnce frames.theme r fs stdin).after log)],
        (o.runOnce frames.theme r fs stdin).exit) := by
  simp only [runWatched, h]
  rfl

theorem runWatched_of_done {e : Effect} (h : request frames.config argv r fs = .done e) :
    (runWatched frames argv r fs stdin changes).2 = e.exit := by
  rw [runWatched_eq_of_done h]

theorem runWatched_of_once {log : String} {o : Options}
    (h : request frames.config argv r fs = .once log o) :
    (runWatched frames argv r fs stdin changes).2 = (o.runOnce frames.theme r fs stdin).exit := by
  rw [runWatched_eq_of_once h]

/-- A run that starts and does not watch is its one rendering, after what it logs. -/
theorem runWatched_eq_of_starts {o : Options} (h : Starts frames.config argv r fs o)
    (hwatch : o.watch = false) :
    ∃ log, runWatched frames argv r fs stdin changes =
      ([(fs, (o.runOnce frames.theme r fs stdin).after log)],
        (o.runOnce frames.theme r fs stdin).exit) := by
  rcases request_of_starts h with ⟨_, log, hrequest⟩ | ⟨hwatch', _⟩
  · exact ⟨log, runWatched_eq_of_once hrequest⟩
  · exact absurd (hwatch.symm.trans hwatch') (by simp)

theorem runWatched_of_starts {o : Options} (h : Starts frames.config argv r fs o)
    (hwatch : o.watch = false) :
    (runWatched frames argv r fs stdin changes).2 = (o.runOnce frames.theme r fs stdin).exit := by
  obtain ⟨log, hrun⟩ := runWatched_eq_of_starts h hwatch
  rw [hrun]

/-- What breaks a run off: its configuration, a rendering that crashes, an output that cannot be written,
or a look at an input that is watched. -/
inductive BrokenOff (frames : Stacks) (argv : List String) (r : Registry) (fs : Files)
    (stdin : List UInt8) (looks : List Files) : Break → Prop
  | config {b : Break} (hconfig : ConfigBreaks frames.config argv fs b) :
      BrokenOff frames argv r fs stdin looks b
  | crash {o : Options} {c : Crash} (hstarts : Starts frames.config argv r fs o)
      (hwatch : o.watch = false) (hreason : o.Unrendered frames.theme r fs stdin (.crash c)) :
      BrokenOff frames argv r fs stdin looks (.crash c)
  | undelivered {o : Options} {b : Break} (hstarts : Starts frames.config argv r fs o)
      (hwatch : o.watch = false) (houtput : o.Undelivered frames.theme r fs stdin b) :
      BrokenOff frames argv r fs stdin looks b
  | look {o : Options} {input : Path} {fs' : Files} {b : Break}
      (hstarts : Starts frames.config argv r fs o) (hwatch : o.watch = true)
      (hinput : o.input = some input) (hmem : fs' ∈ looks)
      (hlook : o.LookBreaks frames.theme r input fs' b) : BrokenOff frames argv r fs stdin looks b

/-- How a run may end, with what stands behind it. -/
inductive Ends (frames : Stacks) (argv : List String) (r : Registry) (fs : Files)
    (stdin : List UInt8) (looks : List Files) : Except Break Nat → Prop
  | informed (hinforms : Informs argv) : Ends frames argv r fs stdin looks (.ok 0)
  | delivered {o : Options} {rendered : Rendered} (hstarts : Starts frames.config argv r fs o)
      (hwatch : o.watch = false) (hrender : o.render frames.theme r fs stdin = .ok rendered) :
      Ends frames argv r fs stdin looks (.ok 0)
  | watched {o : Options} (hstarts : Starts frames.config argv r fs o) (hwatch : o.watch = true) :
      Ends frames argv r fs stdin looks (.ok 0)
  | unrendered {o : Options} {e : RenderError} (hstarts : Starts frames.config argv r fs o)
      (hwatch : o.watch = false) (hreason : o.Unrendered frames.theme r fs stdin e)
      (hreported : ∀ c, e ≠ .crash c) : Ends frames argv r fs stdin looks (.ok 1)
  | refused (hrefused : Refused frames.config argv r fs) : Ends frames argv r fs stdin looks (.ok 2)
  | brokenOff {b : Break} (hbroken : BrokenOff frames argv r fs stdin looks b) :
      Ends frames argv r fs stdin looks (.error b)

/-- **Every run ends in one of these ways.** -/
theorem runWatched_ends (frames : Stacks) (argv : List String) (r : Registry) (fs : Files)
    (stdin : List UInt8) (changes : List (List Edit)) :
    Ends frames argv r fs stdin ((runWatched frames argv r fs stdin changes).1.map (·.1))
      (runWatched frames argv r fs stdin changes).2 := by
  rcases run_cases frames.config argv r fs with hinforms | hrefused | ⟨b, hconfig⟩ | ⟨o, hstarts⟩
  · obtain ⟨effect, hrequest, hexit⟩ := request_of_informs hinforms frames.config r fs
    rw [runWatched_of_done hrequest, hexit]
    exact .informed hinforms
  · obtain ⟨effect, hrequest, hexit⟩ := request_of_refused hrefused
    rw [runWatched_of_done hrequest, hexit]
    exact .refused hrefused
  · obtain ⟨effect, hrequest, hexit⟩ := request_of_configBreaks hconfig r
    rw [runWatched_of_done hrequest, hexit]
    exact .brokenOff (.config hconfig)
  · obtain ⟨name, hname⟩ := hstarts.2.1
    rcases request_of_starts hstarts with ⟨hwatch, log, hrequest⟩ | ⟨hwatch, log, input, hinput, hrequest⟩
    · rw [runWatched_of_once hrequest]
      rcases runOnce_exit hname with
        ⟨hexit, e, hreason, hreported⟩ | ⟨hexit, _, hrender⟩ | ⟨b, hexit, houtput | ⟨c, hreason, rfl⟩⟩
      · rw [hexit]
        exact .unrendered hstarts hwatch hreason hreported
      · rw [hexit]
        exact .delivered hstarts hwatch hrender
      · rw [hexit]
        exact .brokenOff (.undelivered hstarts hwatch houtput)
      · rw [hexit]
        exact .brokenOff (.crash hstarts hwatch hreason)
    · simp only [runWatched, hrequest]
      rcases watchFrom_exit hname changes fs {} (log ++ watchingLine input) with
        hexit | ⟨b, hexit, fs', hmem, hlook⟩
      · rw [hexit]
        exact .watched hstarts hwatch
      · rw [hexit]
        exact .brokenOff (.look hstarts hwatch hinput hmem hlook)

/-- How a run that does not watch ends if its rendering fails. -/
theorem runWatched_of_unrendered {o : Options} {e : RenderError}
    (hstarts : Starts frames.config argv r fs o) (hwatch : o.watch = false)
    (h : o.Unrendered frames.theme r fs stdin e) :
    (runWatched frames argv r fs stdin changes).2 = e.exit := by
  obtain ⟨name, hname⟩ := hstarts.2.1
  exact (runWatched_of_starts hstarts hwatch).trans (runOnce_of_error (h.render_eq hname))

end Run

/-- **How runs end**, for all arguments, files and changes to them.  A run ends with one of three codes
or breaks off.  It ends with 0 if it is asked for help or for a list, with 2 exactly if it is refused,
and with 1 exactly if it does not watch and there is nothing to write for another reason than a crash.

It breaks off only over its configuration, over a rendering that crashes, over an output that cannot be
written, or over a look at an input that it watches.  The first three do break off a run that does not
watch. -/
theorem runWatched_exit (frames : Stacks) (argv : List String) (r : Registry) (fs : Files)
    (stdin : List UInt8) (changes : List (List Edit)) :
    let looks := (runWatched frames argv r fs stdin changes).1.map (·.1)
    let exit := (runWatched frames argv r fs stdin changes).2
    (∀ code, exit = .ok code → code = 0 ∨ code = 1 ∨ code = 2) ∧
    (∀ b, exit = .error b → BrokenOff frames argv r fs stdin looks b) ∧
    (Informs argv → exit = .ok 0) ∧
    (exit = .ok 2 ↔ Refused frames.config argv r fs) ∧
    (exit = .ok 1 ↔ ∃ o e, Starts frames.config argv r fs o ∧ o.watch = false ∧
      o.Unrendered frames.theme r fs stdin e ∧ ∀ c, e ≠ .crash c) ∧
    (∀ b, ConfigBreaks frames.config argv fs b → exit = .error b) ∧
    ∀ o, Starts frames.config argv r fs o → o.watch = false →
      (∀ c, o.Unrendered frames.theme r fs stdin (.crash c) → exit = .error (.crash c)) ∧
      ∀ b, o.Undelivered frames.theme r fs stdin b → exit = .error b := by
  intro looks exit
  have hends : Ends frames argv r fs stdin looks exit := runWatched_ends frames argv r fs stdin changes
  refine ⟨fun code h => ?_, fun b h => ?_, fun h => ?_, ⟨fun h => ?_, fun h => ?_⟩,
    ⟨fun h => ?_, ?_⟩, fun b h => ?_, fun o hstarts hwatch => ⟨fun c h => ?_, fun b h => ?_⟩⟩
  · rw [h] at hends
    cases hends <;> simp
  · rw [h] at hends
    cases hends with
    | brokenOff hbroken => exact hbroken
  · obtain ⟨effect, hrequest, hexit⟩ := request_of_informs h frames.config r fs
    exact (runWatched_of_done hrequest).trans hexit
  · rw [h] at hends
    cases hends with
    | refused hrefused => exact hrefused
  · obtain ⟨effect, hrequest, hexit⟩ := request_of_refused h
    exact (runWatched_of_done hrequest).trans hexit
  · rw [h] at hends
    cases hends with
    | unrendered hstarts hwatch hreason hreported => exact ⟨_, _, hstarts, hwatch, hreason, hreported⟩
  · rintro ⟨o, e, hstarts, hwatch, hreason, hreported⟩
    have hexit : exit = e.exit := runWatched_of_unrendered hstarts hwatch hreason
    cases e with
    | crash c => exact absurd rfl (hreported c)
    | options f => exact absurd rfl (hreason.ne_options f)
    | grammar | theme | undecodable | unreadable => exact hexit
  · obtain ⟨effect, hrequest, hexit⟩ := request_of_configBreaks h r
    exact (runWatched_of_done hrequest).trans hexit
  · exact runWatched_of_unrendered hstarts hwatch h
  · exact (runWatched_of_starts hstarts hwatch).trans (runOnce_of_undelivered h)

/-- Stacks with room for a thousand calls each. -/
def roomy : Stacks := .ofCalls 1000

/-- An input that is not there ends a run with 1, and to watch the standard input is refused. -/
theorem runWatched_exit_absent :
    (runWatched roomy ["a.lua"] .builtin {} [] []).2 = .ok 1 ∧
    (runWatched roomy ["-g", "lua", "--watch"] .builtin {} [] []).2 = .ok 2 := by
  constructor
  · have hasks : Asks ["a.lua"] { input := "a.lua" } :=
      ⟨Except.toOption_eq_some.mp (by decide +kernel), rfl⟩
    have hstarts : ∃ o, Starts roomy.config ["a.lua"] .builtin {} o ∧ o.watch = false ∧
        o.input = some (.ofString "a.lua") :=
      ⟨_, ⟨⟨_, none, hasks, rfl, rfl⟩, ⟨"lua", Except.toOption_eq_some.mp (by decide +kernel)⟩,
        by simp⟩, rfl, rfl⟩
    obtain ⟨o, hstarts, hwatch, hinput⟩ := hstarts
    obtain ⟨_, _, _, _, hone, _⟩ := runWatched_exit roomy ["a.lua"] .builtin {} [] []
    have hread : ({} : Files).read (.ofString "a.lua") = .error (.error ⟨.notFound, .ofString "a.lua"⟩) :=
      rfl
    exact hone.mpr ⟨o, _, hstarts, hwatch, .input hinput hread, nofun⟩
  · have hasks : Asks ["-g", "lua", "--watch"] { grammar := some "lua", watch := true } :=
      ⟨Except.toOption_eq_some.mp (by decide +kernel), rfl⟩
    obtain ⟨_, _, _, htwo, _⟩ := runWatched_exit roomy ["-g", "lua", "--watch"] .builtin {} [] []
    exact htwo.mpr (.noInput ⟨_, none, hasks, rfl, rfl⟩ rfl rfl)

/-- Files with a configuration file that is no text. -/
def undecodableConfig : Files where
  nodes := [(["a.lua"], .file [0x78] (.time 1)), (["lexlight.toml"], .file [0xFF] (.time 1))]

/-- A run breaks off over such a file. -/
theorem run_undecodableConfig :
    (run roomy ["a.lua"] .builtin undecodableConfig []).exit =
      .error (.undecodable ⟨.invalidStart, 0, 0xFF, 1⟩) := by
  have hasks : Asks ["a.lua"] { input := "a.lua" } :=
    ⟨Except.toOption_eq_some.mp (by decide +kernel), rfl⟩
  have hread : undecodableConfig.read ({ input := "a.lua" } : Arguments).configPath = .ok [0xFF] := rfl
  have hconfig : ConfigBreaks roomy.config ["a.lua"] undecodableConfig
      (.undecodable ⟨.invalidStart, 0, 0xFF, 1⟩) :=
    .undecodable hasks (.undecodable rfl hread rfl)
  obtain ⟨effect, hrequest, hexit⟩ := request_of_configBreaks hconfig .builtin
  rw [exit_run, runWatched_of_done hrequest, hexit]

end Highlight.CommandLine
