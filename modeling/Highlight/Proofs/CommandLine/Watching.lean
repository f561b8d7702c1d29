import Highlight.Proofs.CommandLine.Exit

/-!
# When a watched input is rendered

Watching keeps one thing from look to look: the time of change it saw last.  After some looks this is the
time that the last of them with a time saw (`last_foldl_next`), so what a look does is known from the
files that the earlier looks met (`watchFrom_look`, by induction on the changes between the looks).

* `watchFrom_renders`: a look renders exactly if the input has a time of change other than the one seen
  last.  Before the first sight of the input the time seen last is the time zero, so an input of that time
  is not rendered at first sight.
* `runWatched_watch`: a run that watches ends with 0 after its last look, unless a look that renders meets
  an input that it cannot read or an output that it cannot write, or crashes.
-/

namespace Highlight.CommandLine

open Text

/-! ## The time of change seen last -/

/-- The time of change of the input that the last of some looks saw, if any of them saw one. -/
def lastStamp (input : Path) (seen : List Files) : Option Stamp :=
  (seen.filterMap fun fs => (fs.stamp input).toOption).getLast?

/-- A look renders: there is a time of change, it is not the one seen last, and it is not the time zero
if none has been seen. -/
def Due (input : Path) (earlier : List Files) (fs : Files) : Prop :=
  ∃ s, fs.stamp input = .ok s ∧ lastStamp input earlier ≠ some s ∧
    (lastStamp input earlier = none → s ≠ .time 0)

/-- The state after a look. -/
def Watching.next (input : Path) (w : Watching) (fs : Files) : Watching :=
  match fs.stamp input with
  | .ok s => ⟨s⟩
  | .error _ => w

section Last

variable {input : Path}

theorem lastStamp_cons (fs : Files) (seen : List Files) :
    lastStamp input (fs :: seen) = (lastStamp input seen).or (fs.stamp input).toOption := by
  unfold lastStamp
  cases hstamp : fs.stamp input with
  | error e =>
    rw [List.filterMap_cons_none (by rw [hstamp]; rfl)]
    simp [Except.toOption]
  | ok s =>
    rw [List.filterMap_cons_some (by rw [hstamp]; rfl), List.getLast?_cons]
    cases (seen.filterMap fun fs => (fs.stamp input).toOption).getLast? <;> rfl

/-- The state after some looks holds the time that was seen last. -/
theorem last_foldl_next (seen : List Files) (w : Watching) :
    (seen.foldl (Watching.next input) w).last = (lastStamp input seen).getD w.last := by
  induction seen generalizing w with
  | nil => rfl
  | cons fs seen ih =>
    rw [List.foldl_cons, ih, lastStamp_cons, Watching.next]
    cases fs.stamp input <;> cases lastStamp input seen <;> rfl

theorem due_iff {earlier : List Files} {fs : Files} : Due input earlier fs ↔
    ∃ s, fs.stamp input = .ok s ∧ s ≠ (earlier.foldl (Watching.next input) {}).last := by
  rw [last_foldl_next, Due]
  cases lastStamp input earlier <;> simp [eq_comm]

end Last

/-! ## One look -/

/-- What a look does that finds nothing to do. -/
def Effect.idle (fs : Files) : Effect := { exit := .ok 0, files := fs }

/-- What a look does that crashes. -/
def Effect.crashed (c : Crash) (fs : Files) : Effect := { exit := .error (.crash c), files := fs }

/-- A look breaks off after the looks that met the files `earlier`: asking for the time crashes, or the look
renders and the rendering breaks off. -/
inductive Options.Halts (stack : Stack) (o : Options) (r : Registry) (input : Path)
    (earlier : List Files) (fs : Files) : Break → Prop
  | stamp {c : Crash} (hstamp : fs.stamp input = .error (.crash c)) :
      Halts stack o r input earlier fs (.crash c)
  | rendering {b : Break} (hdue : Due input earlier fs) (hbreaks : o.BreaksOff stack r fs b) :
      Halts stack o r input earlier fs b

section Look

variable {stack : Stack} {o : Options} {r : Registry} {fs : Files} {input : Path} {w : Watching}

theorem look_snd (stack : Stack) (o : Options) (r : Registry) (fs : Files) (input : Path)
    (w : Watching) : (o.look stack r fs input w).2 = w.next input fs := by
  unfold Options.look Watching.next
  cases fs.stamp input with
  | error f => cases f <;> rfl
  | ok s =>
    by_cases hs : s = w.last
    · simp only [hs, if_true]
    · simp only [if_neg hs]

theorem look_of_due (h : ∃ s, fs.stamp input = .ok s ∧ s ≠ w.last) :
    (o.look stack r fs input w).1 = o.renderChange stack r fs input := by
  obtain ⟨s, hstamp, hs⟩ := h
  simp only [Options.look, hstamp, if_neg hs]

theorem look_of_crash {c : Crash} (h : fs.stamp input = .error (.crash c)) :
    (o.look stack r fs input w).1 = .crashed c fs := by
  simp only [Options.look, h]
  rfl

theorem look_of_not_due (hcrash : ∀ c, fs.stamp input ≠ .error (.crash c))
    (h : ¬ ∃ s, fs.stamp input = .ok s ∧ s ≠ w.last) : (o.look stack r fs input w).1 = .idle fs := by
  unfold Options.look
  cases hstamp : fs.stamp input with
  | error f =>
    cases f with
    | error e => rfl
    | crash c => exact absurd hstamp (hcrash c)
  | ok s =>
    by_cases hs : s = w.last
    · simp only [if_pos hs]
      rfl
    · exact absurd ⟨s, hstamp, hs⟩ h

theorem append_newline_ne_empty (s : String) : s ++ "\n" ≠ "" := by
  intro h
  have hlist := congrArg String.toList h
  simp at hlist

/-- A rendering says something or breaks off, so it is told from a look that finds nothing to do. -/
theorem renderChange_ne_idle (stack : Stack) (o : Options) (r : Registry) (fs : Files) (input : Path) :
    o.renderChange stack r fs input ≠ .idle fs := by
  intro h
  have hexit : (o.renderChange stack r fs input).exit = .ok 0 := congrArg Effect.exit h
  have hstderr : (o.renderChange stack r fs input).stderr = "" := congrArg Effect.stderr h
  unfold Options.renderChange at hexit hstderr
  cases hrender : o.render stack r fs [] with
  | error e =>
    rw [hrender] at hexit hstderr
    cases e with
    | grammar | theme | undecodable => exact append_newline_ne_empty _ hstderr
    | unreadable | options | crash => cases hexit
  | ok rendered =>
    rw [hrender] at hexit hstderr
    rcases deliver_exit o fs rendered.text with hok | ⟨p, f, _, _, herror⟩
    · simp only [Effect.after, hok] at hstderr
      exact append_newline_ne_empty _ hstderr
    · simp only [Effect.after, herror] at hexit
      cases hexit

/-- A rendering does not go on exactly if it breaks off for one of the reasons. -/
theorem renderChange_exit_eq_error {name : String} (hname : o.grammarName r = .ok name) {b : Break} :
    (o.renderChange stack r fs input).exit = .error b ↔ o.BreaksOff stack r fs b := by
  constructor
  · intro h
    rcases renderChange_exit hname fs with hok | ⟨b', hexit, hbreaks⟩
    · cases hok.symm.trans h
    · cases hexit.symm.trans h
      exact hbreaks
  · intro h
    cases h with
    | unreadable hreason | crash hreason =>
      simp only [Options.renderChange, hreason.render_eq hname]
    | undelivered houtput =>
      obtain ⟨rendered, p, f, hrender, houtput, hwrite, rfl⟩ := houtput
      simp only [Options.renderChange, hrender, Effect.after, Options.deliver, houtput, hwrite]

/-- How a look ends, from the looks before it. -/
theorem look_exit_eq_error {name : String} (hname : o.grammarName r = .ok name)
    {earlier : List Files} {b : Break} :
    (o.look stack r fs input (earlier.foldl (Watching.next input) {})).1.exit = .error b ↔
      o.Halts stack r input earlier fs b := by
  constructor
  · intro h
    by_cases hcrash : ∃ c, fs.stamp input = .error (.crash c)
    · obtain ⟨c, hcrash⟩ := hcrash
      rw [look_of_crash hcrash] at h
      cases h
      exact .stamp hcrash
    · by_cases hdue : Due input earlier fs
      · rw [look_of_due (due_iff.mp hdue), renderChange_exit_eq_error hname] at h
        exact .rendering hdue h
      · rw [look_of_not_due (not_exists.mp hcrash) (fun hs => hdue (due_iff.mpr hs))] at h
        cases h
  · intro h
    cases h with
    | stamp hstamp =>
      rw [look_of_crash hstamp]
      rfl
    | rendering hdue hbreaks =>
      rw [look_of_due (due_iff.mp hdue)]
      exact (renderChange_exit_eq_error hname).mpr hbreaks

end Look

/-! ## All looks -/

section Run

variable {stack : Stack} {o : Options} {r : Registry} {input : Path}

/-- **Every look is that of the state that the earlier looks leave**, whatever they did. -/
theorem watchFrom_look {changes : List (List Edit)} {w : Watching} {fs : Files} {log : String}
    {before later : List (Files × Effect)} {fs' : Files} {e : Effect}
    (h : (o.watchFrom stack r input w fs log changes).1 = before ++ (fs', e) :: later) :
    e = (o.look stack r fs' input ((before.map (·.1)).foldl (Watching.next input) w)).1.after
      (if before = [] then log else "") := by
  induction changes generalizing w fs log before with
  | nil =>
    cases before with
    | nil => cases h; rfl
    | cons x before => cases before <;> cases h
  | cons edits changes ih =>
    rw [watchFrom_cons] at h
    cases hexit : (o.look stack r fs input w).1.exit with
    | error b =>
      simp only [hexit] at h
      cases before with
      | nil => cases h; rfl
      | cons x before => cases before <;> cases h
    | ok code =>
      simp only [hexit] at h
      cases before with
      | nil => cases h; rfl
      | cons x before =>
        obtain ⟨hx, hrest⟩ := List.cons.inj h
        -- Nothing but the first look says what was said before.
        have hlook := ih hrest
        rw [ite_self, look_snd] at hlook
        rw [List.map_cons, List.foldl_cons, if_neg (by simp), ← hx]
        exact hlook

theorem after_inj {log : String} {e e' : Effect} (h : e.after log = e'.after log) : e = e' := by
  cases e
  cases e'
  simp only [Effect.after, Effect.mk.injEq] at h ⊢
  obtain ⟨hexit, hstdout, hstderr, hfiles⟩ := h
  refine ⟨hexit, hstdout, ?_, hfiles⟩
  exact String.toList_inj.mp (by simpa using congrArg String.toList hstderr)

/-- **When watching renders**, for all settings, files and changes to them.  A look renders exactly if the
input has a time of change, other than the one seen last, whatever the looks before it came to; if none
has been seen, other than the time zero.  Else it does nothing, unless asking for the time crashes. -/
theorem watchFrom_renders {changes : List (List Edit)} {fs : Files} {log : String}
    {before later : List (Files × Effect)} {fs' : Files} {e : Effect}
    (h : (o.watchFrom stack r input {} fs log changes).1 = before ++ (fs', e) :: later) :
    let earlier := before.map (·.1)
    let said := if before = [] then log else ""
    ((∀ c, fs'.stamp input ≠ .error (.crash c)) →
      (e = (o.renderChange stack r fs' input).after said ↔ Due input earlier fs') ∧
      (e = (Effect.idle fs').after said ↔ ¬ Due input earlier fs')) ∧
    ∀ c, fs'.stamp input = .error (.crash c) → e = (Effect.crashed c fs').after said := by
  intro earlier said
  rw [watchFrom_look h]
  refine ⟨fun hcrash => ?_, fun c hcrash => by rw [look_of_crash hcrash]⟩
  have hne : (o.renderChange stack r fs' input).after said ≠ (Effect.idle fs').after said := fun heq =>
    renderChange_ne_idle stack o r fs' input (after_inj heq)
  by_cases hdue : Due input earlier fs'
  · rw [look_of_due (due_iff.mp hdue)]
    exact ⟨iff_of_true rfl hdue, iff_of_false hne (not_not_intro hdue)⟩
  · rw [look_of_not_due hcrash (fun hs => hdue (due_iff.mpr hs))]
    exact ⟨iff_of_false hne.symm hdue, iff_of_true rfl hdue⟩

end Run

/-- The path of a file of Lua. -/
def luaPath : Path := ⟨.relative, ["a.lua"]⟩

/-- Settings that watch this file. -/
def watchingLua : Options where
  input := some luaPath
  output := none
  grammar := none
  theme := none
  markup := .richText
  combined := true
  extensions := []
  watch := true
  debug := false

/-- Files with a file of Lua of one byte, changed at some time. -/
def luaFile (byte : UInt8) (time : Int) : Files := Edit.apply {} (.write ["a.lua"] [byte] time)

/-- An input that comes to be there is rendered, and not again while its time stays the same, even if it
could not be decoded. -/
theorem watchFrom_renders_once :
    let absent : Files × Effect := ({}, .idle {})
    let rendered : Files × Effect :=
      (luaFile 0xFF 5, (watchingLua.renderChange roomy.theme .builtin (luaFile 0xFF 5) luaPath).after "")
    let unchanged : Files × Effect := (luaFile 0xFF 5, (Effect.idle (luaFile 0xFF 5)).after "")
    (watchingLua.watchFrom roomy.theme .builtin luaPath {} {} "" [[.write ["a.lua"] [0xFF] 5], []]).1 =
        [absent, rendered, unchanged] ∧
      Due luaPath [absent.1] rendered.1 ∧ ¬ Due luaPath [absent.1, rendered.1] unchanged.1 := by
  intro absent rendered unchanged
  have hlooks :
      (watchingLua.watchFrom roomy.theme .builtin luaPath {} {} "" [[.write ["a.lua"] [0xFF] 5], []]).1 =
        [absent, rendered, unchanged] := rfl
  have hsecond : [absent, rendered, unchanged] = [absent] ++ rendered :: [unchanged] := rfl
  have hthird : [absent, rendered, unchanged] = [absent, rendered] ++ unchanged :: [] := rfl
  have hstamp : (luaFile 0xFF 5).stamp luaPath = .ok (.time 5) := rfl
  have hcrash : ∀ c, (luaFile 0xFF 5).stamp luaPath ≠ .error (.crash c) := by
    intro c
    rw [hstamp]
    nofun
  exact ⟨hlooks, ((watchFrom_renders (hlooks.trans hsecond)).1 hcrash).1.mp rfl,
    ((watchFrom_renders (hlooks.trans hthird)).1 hcrash).2.mp rfl⟩

/-- An input of the time zero is not rendered at first sight. -/
theorem watchFrom_timeZero :
    (watchingLua.watchFrom roomy.theme .builtin luaPath {} {} "" [[.write ["a.lua"] [0x31] 0]]).1 =
      [({}, .idle {}), (luaFile 0x31 0, .idle (luaFile 0x31 0))] ∧
    (luaFile 0x31 0).stamp luaPath = .ok (.time 0) ∧ lastStamp luaPath [{}] = none ∧
    Effect.idle (luaFile 0x31 0) ≠ watchingLua.renderChange roomy.theme .builtin (luaFile 0x31 0) luaPath :=
  ⟨rfl, rfl, rfl, (renderChange_ne_idle _ _ _ _ _).symm⟩

/-! ## Runs that watch -/

section Ends

variable {stack : Stack} {o : Options} {r : Registry} {input : Path} {name : String}

/-- When a look of a run breaks off. -/
theorem exit_of_watchFrom (hname : o.grammarName r = .ok name)
    {changes : List (List Edit)} {fs : Files} {log : String} {before later : List (Files × Effect)}
    {fs' : Files} {e : Effect} {b : Break}
    (h : (o.watchFrom stack r input {} fs log changes).1 = before ++ (fs', e) :: later) :
    e.exit = .error b ↔ o.Halts stack r input (before.map (·.1)) fs' b := by
  rw [watchFrom_look h, ← look_exit_eq_error hname]
  rfl

/-- A rendering that fails for any reason but a file that cannot be read, or a crash, is reported. -/
theorem renderChange_of_error (hname : o.grammarName r = .ok name) {fs : Files} {e : RenderError}
    (hrender : o.render stack r fs [] = .error e) (hreadable : ∀ f, e ≠ .unreadable f)
    (hcrash : ∀ c, e ≠ .crash c) : (o.renderChange stack r fs input).exit = .ok 0 := by
  simp only [Options.renderChange, hrender]
  cases e with
  | unreadable f => exact absurd rfl (hreadable f)
  | crash c => exact absurd rfl (hcrash c)
  | options f => exact absurd rfl ((unrendered_of_render hname hrender).ne_options f)
  | grammar | theme | undecodable => rfl

/-- Watching ends with 0, after all its looks, or at the one look that breaks off. -/
theorem watchFrom_ends (hname : o.grammarName r = .ok name) (changes : List (List Edit)) (fs : Files)
    (log : String) :
    let looks := (o.watchFrom stack r input {} fs log changes).1
    let exit := (o.watchFrom stack r input {} fs log changes).2
    (exit = .ok 0 ∧ looks.length = changes.length + 1 ∧
      ∀ before fs' e later b, looks = before ++ (fs', e) :: later →
        ¬ o.Halts stack r input (before.map (·.1)) fs' b) ∨
    ∃ b before fs' e, exit = .error b ∧ looks = before ++ [(fs', e)] ∧
      o.Halts stack r input (before.map (·.1)) fs' b := by
  intro looks exit
  rcases watchFrom_stops hname changes {} fs log with
    ⟨hend, hlength, hall⟩ | ⟨b, before, fs', e, hend, hlooks, hlast, -⟩
  · refine Or.inl ⟨hend, hlength, fun before fs' e later b hsplit hhalts => ?_⟩
    have hmem : (fs', e) ∈ looks := by rw [hsplit]; exact List.mem_append_right _ List.mem_cons_self
    have herror := (exit_of_watchFrom hname hsplit).mpr hhalts
    cases (hall _ hmem).symm.trans herror
  · exact Or.inr ⟨b, before, fs', e, hend, hlooks, (exit_of_watchFrom hname hlooks).mp hlast⟩

/-- A run that starts and watches does nothing else. -/
theorem runWatched_eq_watchFrom {frames : Stacks} {argv : List String} {fs : Files}
    (hstarts : Starts frames.config argv r fs o) (hwatch : o.watch = true)
    (hinput : o.input = some input) (stdin : List UInt8) (changes : List (List Edit)) :
    ∃ log, runWatched frames argv r fs stdin changes =
      o.watchFrom frames.theme r input {} fs log changes := by
  rcases request_of_starts hstarts with ⟨hno, -⟩ | ⟨-, log, input', hinput', hrequest⟩
  · exact absurd (hno.symm.trans hwatch) (by simp)
  · obtain rfl := Option.some.inj (hinput'.symm.trans hinput)
    exact ⟨log ++ watchingLine input', by simp only [runWatched, hrequest]⟩

end Ends

/-- **How a run that watches ends**, for all files and changes to them.  Whatever the files are by the
time of a rendering, it breaks off exactly over a file that cannot be read, an output that cannot be
written, or a crash, and reports every other failure.  The run ends with 0, after all its looks, exactly
if no look breaks off: none is due whose rendering does, and none crashes over the time of the input.
Else it breaks off at the first that does. -/
theorem runWatched_watch {frames : Stacks} {argv : List String} {r : Registry} {fs : Files}
    {o : Options} {input : Path} (hstarts : Starts frames.config argv r fs o) (hwatch : o.watch = true)
    (hinput : o.input = some input) (stdin : List UInt8) (changes : List (List Edit)) :
    let stack := frames.theme
    let looks := (runWatched frames argv r fs stdin changes).1
    let exit := (runWatched frames argv r fs stdin changes).2
    (∀ fs' b, (o.renderChange stack r fs' input).exit = .error b ↔ o.BreaksOff stack r fs' b) ∧
    (∀ fs' e, o.render stack r fs' [] = .error e → (∀ f, e ≠ .unreadable f) → (∀ c, e ≠ .crash c) →
      (o.renderChange stack r fs' input).exit = .ok 0) ∧
    (exit = .ok 0 → looks.length = changes.length + 1) ∧
    (exit = .ok 0 ↔ ∀ before fs' e later b, looks = before ++ (fs', e) :: later →
      ¬ o.Halts stack r input (before.map (·.1)) fs' b) ∧
    ((∃ b, exit = .error b) ∨ exit = .ok 0) ∧
    ∀ b, exit = .error b ↔ ∃ before fs' e, looks = before ++ [(fs', e)] ∧
      o.Halts stack r input (before.map (·.1)) fs' b := by
  intro stack looks exit
  obtain ⟨name, hname⟩ := hstarts.2.1
  obtain ⟨log, hrun⟩ := runWatched_eq_watchFrom hstarts hwatch hinput stdin changes
  have hlooks : looks = (o.watchFrom stack r input {} fs log changes).1 := congrArg Prod.fst hrun
  have hexit : exit = (o.watchFrom stack r input {} fs log changes).2 := congrArg Prod.snd hrun
  refine ⟨fun fs' b => renderChange_exit_eq_error hname,
    fun fs' e hrender hreadable hcrash => renderChange_of_error hname hrender hreadable hcrash, ?_⟩
  rw [hlooks, hexit]
  rcases watchFrom_ends hname changes fs log with
    ⟨hend, hlength, hall⟩ | ⟨b, before, fs', e, hend, hsplit, hhalts⟩
  · rw [hend]
    refine ⟨fun _ => hlength, iff_of_true rfl hall, Or.inr rfl, fun b => iff_of_false (by simp) ?_⟩
    rintro ⟨before, fs', e, hsplit, hhalts⟩
    exact hall before fs' e [] b hsplit hhalts
  · rw [hend]
    refine ⟨fun h => absurd h (by simp), iff_of_false (by simp) fun hall =>
      hall before fs' e [] b hsplit hhalts, Or.inl ⟨b, rfl⟩, fun b' => ⟨?_, ?_⟩⟩
    · intro h
      obtain rfl := Except.error.inj h
      exact ⟨before, fs', e, hsplit, hhalts⟩
    · -- Only the last look may break off, and it does so in one way.
      rintro ⟨before', fs'', e', hsplit', hhalts'⟩
      obtain ⟨-, hlast⟩ := List.append_inj' (hsplit.symm.trans hsplit') rfl
      cases hlast
      have herror := (exit_of_watchFrom hname hsplit).mpr hhalts
      exact herror.symm.trans ((exit_of_watchFrom hname hsplit').mpr hhalts')

/-- Without a configuration file, these are the settings of such a run. -/
theorem starts_watchingLua {fs : Files} (h : fs.isFile ⟨.relative, [configName]⟩ = .ok false) :
    Starts roomy.config ["a.lua", "--watch"] .builtin fs watchingLua := by
  have hasks : Asks ["a.lua", "--watch"] { input := "a.lua", watch := true } :=
    ⟨Except.toOption_eq_some.mp (by decide +kernel), rfl⟩
  have hload : loadConfig roomy.config fs ({ input := "a.lua", watch := true } : Arguments).configPath =
      .ok none := by
    have hpath : ({ input := "a.lua", watch := true } : Arguments).configPath =
        ⟨.relative, [configName]⟩ := rfl
    rw [hpath, loadConfig, h]
  exact ⟨⟨_, none, hasks, hload, rfl⟩, ⟨"lua", Except.toOption_eq_some.mp (by decide +kernel)⟩,
    by simp [watchingLua]⟩

/-- A run that watches an input that is no text ends with 0. -/
theorem runWatched_watch_undecodable :
    Starts roomy.config ["a.lua", "--watch"] .builtin (luaFile 0xFF 5) watchingLua ∧
    watchingLua.watch = true ∧ watchingLua.input = some luaPath ∧
    Due luaPath [] (luaFile 0xFF 5) ∧
    (runWatched roomy ["a.lua", "--watch"] .builtin (luaFile 0xFF 5) [] []).2 = .ok 0 := by
  have hstarts : Starts roomy.config ["a.lua", "--watch"] .builtin (luaFile 0xFF 5) watchingLua :=
    starts_watchingLua rfl
  refine ⟨hstarts, rfl, rfl, ⟨.time 5, rfl, by decide, by decide⟩, ?_⟩
  obtain ⟨hexit, -, -, hends, -⟩ := runWatched_watch hstarts rfl rfl [] []
  refine hends.mpr fun before fs' e later b hlooks hhalts => ?_
  obtain ⟨log, hrun⟩ := runWatched_eq_watchFrom hstarts rfl rfl [] []
  rw [hrun] at hlooks
  cases before with
  | nil =>
    cases hlooks
    have hstamp : (luaFile 0xFF 5).stamp luaPath = .ok (.time 5) := rfl
    cases hhalts with
    | stamp hcrash => cases hstamp.symm.trans hcrash
    | rendering _ hbreaks => cases (hexit (luaFile 0xFF 5) b).mpr hbreaks
  | cons x before => cases before <;> cases hlooks

/-- Files with a directory in the place of a file of Lua. -/
def luaDirectory : Files where
  nodes := [(["a.lua"], .directory (.time 1))]

/-- Such a directory breaks off a run that watches it. -/
theorem runWatched_directory :
    (runWatched roomy ["a.lua", "--watch"] .builtin luaDirectory [] []).2 =
      .error (.file ⟨.isDirectory, luaPath⟩) := by
  have hstarts : Starts roomy.config ["a.lua", "--watch"] .builtin luaDirectory watchingLua :=
    starts_watchingLua rfl
  obtain ⟨log, hrun⟩ := runWatched_eq_watchFrom hstarts rfl rfl [] []
  rw [hrun]
  rfl

end Highlight.CommandLine
