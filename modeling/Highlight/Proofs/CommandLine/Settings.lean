import Highlight.Proofs.CommandLine.Request
import Highlight.Proofs.Data.Value
import Mathlib.Data.List.Forall2

/-!
# Where the settings come from

Each setting is merged from the arguments, the configuration and a default on its own.  For each it is known
what it is if it is sound, and how it fails if it is not (`stringSetting_of`, `stringSetting_of_not` and
their like).  A string in the configuration is looked at even where an argument takes its place.

* `options_eq_error`: the settings fail with the first of them that is unsound.
* `exists_merged`: if all are sound and the grammars of extensions have texts, they are merged.
* `grammarName_eq`: the grammar is the first of four that there may be.

A markup in arguments that are taken from a command line is a known one, and so never empty
(`markup_of_ofList`).  Not every wrong setting is reported: a markup that cannot be shown crashes instead
(`options_largeMarkup`).
-/

namespace Highlight.CommandLine

open Text

/-! ## What is merged -/

/-- The string under a key of a configuration. -/
def stringAt? (config : Table Value) (key : String) : Option String :=
  match config.get? key with
  | some (.string s) => some s
  | _ => none

/-- The value that is to name the markup. -/
def markupValue (a : Arguments) (config : Table Value) : Value :=
  match given a.markup with
  | some name => .string name
  | none => (config.get? "markup").getD (.string "rich-text")

/-- The entries of the configuration for extensions. -/
def extensionEntries (config : Table Value) : List (String × Value) :=
  match config.get? "extensions" with
  | some (.table entries) => entries
  | _ => []

/-- A setting is absent or a string. -/
def StringOrAbsent (config : Table Value) (key : String) : Prop :=
  ∀ v, config.get? key = some v → v = .null ∨ ∃ s, v = .string s

/-- A setting is absent or true or false. -/
def BoolOrAbsent (config : Table Value) (key : String) : Prop :=
  ∀ v, config.get? key = some v → ∃ b, v = .bool b

/-- The markup to use is one of those built in. -/
def NamesMarkup (a : Arguments) (config : Table Value) : Prop :=
  ∃ name, markupValue a config = .string name ∧ lower name ∈ Markup.names

/-- Nothing is wrong with arguments and a configuration. -/
structure Sound (a : Arguments) (config : Table Value) : Prop where
  grammar : StringOrAbsent config "grammar"
  theme : StringOrAbsent config "theme"
  markup : NamesMarkup a config
  combine : BoolOrAbsent config "combine"

/-- How the settings fail: with the first of them that is unsound, or that has no text but needs one. -/
inductive Fails (room : Nat) (a : Arguments) (config : Table Value) : SettingsFailure → Prop
  | grammar (hgrammar : ¬ StringOrAbsent config "grammar") :
      Fails room a config (.invalid .grammarNotString)
  | theme (hgrammar : StringOrAbsent config "grammar") (htheme : ¬ StringOrAbsent config "theme") :
      Fails room a config (.invalid .themeNotString)
  | markup {shown : String} (hgrammar : StringOrAbsent config "grammar")
      (htheme : StringOrAbsent config "theme") (hmarkup : ¬ NamesMarkup a config)
      (hshown : (markupValue a config).shown room = .ok shown) :
      Fails room a config (.invalid (.unknownMarkup shown))
  | markupCrash {c : Crash} (hgrammar : StringOrAbsent config "grammar")
      (htheme : StringOrAbsent config "theme") (hmarkup : ¬ NamesMarkup a config)
      (hshown : (markupValue a config).shown room = .error c) : Fails room a config (.crash c)
  | combine (hgrammar : StringOrAbsent config "grammar") (htheme : StringOrAbsent config "theme")
      (hmarkup : NamesMarkup a config) (hcombine : ¬ BoolOrAbsent config "combine") :
      Fails room a config (.invalid .combineNotBoolean)
  | extension {before after : List (String × Value)} {entry : String × Value} {c : Crash}
      (hsound : Sound a config) (hentries : extensionEntries config = before ++ entry :: after)
      (hbefore : ∀ e ∈ before, e.2.HasText room) (htext : entry.2.text room = .error c) :
      Fails room a config (.crash c)

/-- The settings that arguments and a configuration come to. -/
structure Merged (room : Nat) (a : Arguments) (config : Table Value) (o : Options) : Prop where
  grammar : o.grammar = (given a.grammar).or (stringAt? config "grammar")
  /-- The path of a theme file in the configuration is seen from the directory of the configuration. -/
  theme : o.theme = (given a.theme).or ((stringAt? config "theme").map fun t =>
    if ".toml".toList <:+ t.toList then (a.configPath.parent.join (.ofString t)).toString else t)
  markup : o.markup ∈ Markup.builtin ∧ ∃ name, markupValue a config = .string name ∧
    o.markup.name = lower name
  combined : o.combined = false ↔ a.noCombine = true ∨ config.get? "combine" = some (.bool false)
  input : o.input = a.inputPath
  /-- Every entry for an extension is turned into a text. -/
  extensions : List.Forall₂ (fun entry e => e.1 = entry.1 ∧ entry.2.text room = .ok e.2)
    (extensionEntries config) o.extensions

/-! ## One setting after the other -/

section Settings

variable {room : Nat} {a : Arguments} {config : Table Value}

theorem stringSetting_of {key : String} (h : StringOrAbsent config key) (e : OptionsError) :
    stringSetting config key e = .ok (stringAt? config key) := by
  unfold stringSetting stringAt?
  cases hget : config.get? key with
  | none => rfl
  | some v => obtain rfl | ⟨s, rfl⟩ := h v hget <;> rfl

theorem stringSetting_of_not {key : String} (h : ¬ StringOrAbsent config key) (e : OptionsError) :
    stringSetting config key e = .error (.invalid e) := by
  unfold stringSetting
  split
  · next hnone => exact absurd (fun v hv => by cases hnone.symm.trans hv) h
  · next hnull =>
    refine absurd (fun v hv => Or.inl ?_) h
    exact (Option.some.inj (hnull.symm.trans hv)).symm
  · next s hstring =>
    refine absurd (fun v hv => Or.inr ⟨s, ?_⟩) h
    exact (Option.some.inj (hstring.symm.trans hv)).symm
  · rfl

/-- The markup that a value names. -/
def markupOf (room : Nat) (value : Value) : Except SettingsFailure Markup :=
  match value with
  | .string name =>
    match Markup.named name with
    | .ok m => .ok m
    | .error _ => .error (markupFailure room value)
  | value => .error (markupFailure room value)

theorem markupSetting_eq (room : Nat) (a : Arguments) (config : Table Value) :
    markupSetting room a config = markupOf room (markupValue a config) := rfl

theorem exists_named {name : String} (h : lower name ∈ Markup.names) :
    ∃ m ∈ Markup.builtin, Markup.named name = .ok m ∧ m.name = lower name := by
  unfold Markup.named
  cases hfind : Markup.builtin.find? (·.name = lower name) with
  | some m =>
    have hname := List.find?_some hfind
    exact ⟨m, List.mem_of_find?_eq_some hfind, rfl, by simpa using hname⟩
  | none =>
    obtain ⟨m, hm, hname⟩ := List.mem_map.mp h
    exact absurd (decide_eq_true hname) (List.find?_eq_none.mp hfind m hm)

theorem mem_names_of_named {name : String} {m : Markup} (h : Markup.named name = .ok m) :
    lower name ∈ Markup.names := by
  unfold Markup.named at h
  split at h
  · next m' hfind =>
    have hname : m'.name = lower name := by simpa using List.find?_some hfind
    exact hname ▸ List.mem_map_of_mem (List.mem_of_find?_eq_some hfind)
  · cases h

theorem markupSetting_of (h : NamesMarkup a config) (room : Nat) :
    ∃ m ∈ Markup.builtin, markupSetting room a config = .ok m ∧
      ∃ name, markupValue a config = .string name ∧ m.name = lower name := by
  obtain ⟨name, hvalue, hknown⟩ := h
  obtain ⟨m, hm, hnamed, hname⟩ := exists_named hknown
  exact ⟨m, hm, by simp only [markupSetting_eq, hvalue, markupOf, hnamed], name, hvalue, hname⟩

theorem markupSetting_of_not (h : ¬ NamesMarkup a config) (room : Nat) :
    markupSetting room a config = .error (markupFailure room (markupValue a config)) := by
  rw [markupSetting_eq]
  unfold NamesMarkup at h
  cases hvalue : markupValue a config with
  | string name =>
    rw [hvalue] at h
    cases hnamed : Markup.named name with
    | ok m => exact absurd ⟨name, rfl, mem_names_of_named hnamed⟩ h
    | error e => simp only [markupOf, hnamed]
  | null | bool | integer | decimal | moment | array | table => rfl

theorem combineSetting_of (h : BoolOrAbsent config "combine") :
    ∃ b, combineSetting config = .ok b ∧ (b = false ↔ config.get? "combine" = some (.bool false)) := by
  unfold combineSetting
  cases hget : config.get? "combine" with
  | none => exact ⟨true, rfl, by simp⟩
  | some v =>
    obtain ⟨b, rfl⟩ := h v hget
    exact ⟨b, rfl, by simp⟩

theorem combineSetting_of_not (h : ¬ BoolOrAbsent config "combine") :
    combineSetting config = .error (.invalid .combineNotBoolean) := by
  unfold combineSetting
  split
  · next hnone => exact absurd (fun v hv => by cases hnone.symm.trans hv) h
  · next b hbool =>
    refine absurd (fun v hv => ⟨b, ?_⟩) h
    exact (Option.some.inj (hbool.symm.trans hv)).symm
  · rfl

/-! ## Texts of extensions -/

/-- Entries that have texts are turned into these. -/
theorem entryTexts_of : ∀ {entries : List (String × Value)}, (∀ e ∈ entries, e.2.HasText room) →
    ∃ texts, entryTexts room entries = .ok texts ∧
      List.Forall₂ (fun entry e => e.1 = entry.1 ∧ entry.2.text room = .ok e.2) entries texts
  | [], _ => ⟨[], rfl, .nil⟩
  | (k, v) :: rest, h => by
    obtain ⟨text, htext⟩ := Value.exists_text_iff.mpr (h (k, v) List.mem_cons_self)
    obtain ⟨texts, htexts, hall⟩ := entryTexts_of fun e he => h e (List.mem_cons_of_mem _ he)
    refine ⟨(k, text) :: texts, ?_, .cons ⟨rfl, htext⟩ hall⟩
    simp only [entryTexts, htext, htexts]
    rfl

/-- The first entry without a text makes all of them crash. -/
theorem entryTexts_of_not : ∀ {before after : List (String × Value)} {entry : String × Value} {c : Crash},
    (∀ e ∈ before, e.2.HasText room) → entry.2.text room = .error c →
    entryTexts room (before ++ entry :: after) = .error c
  | [], _, (_, _), _, _, htext => by simp only [List.nil_append, entryTexts, htext]
  | (k, v) :: before, after, entry, c, hbefore, htext => by
    obtain ⟨text, hv⟩ := Value.exists_text_iff.mpr (hbefore (k, v) List.mem_cons_self)
    have ih : entryTexts room (before ++ entry :: after) = .error c :=
      entryTexts_of_not (fun e he => hbefore e (List.mem_cons_of_mem _ he)) htext
    simp only [List.cons_append, entryTexts, hv, ih]
    rfl

/-- All entries have texts, or there is a first that has none. -/
theorem texts_or_first (room : Nat) : ∀ entries : List (String × Value),
    (∀ e ∈ entries, e.2.HasText room) ∨ ∃ before entry after c, entries = before ++ entry :: after ∧
      (∀ e ∈ before, e.2.HasText room) ∧ entry.2.text room = .error c
  | [] => Or.inl fun e he => absurd he List.not_mem_nil
  | entry :: rest => by
    by_cases htext : entry.2.HasText room
    · rcases texts_or_first room rest with hall | ⟨before, e, after, c, rfl, hbefore, he⟩
      · exact Or.inl (List.forall_mem_cons.mpr ⟨htext, hall⟩)
      · exact Or.inr ⟨entry :: before, e, after, c, rfl, List.forall_mem_cons.mpr ⟨htext, hbefore⟩, he⟩
    · obtain ⟨c, hc⟩ := Value.exists_text_error_iff.mpr htext
      exact Or.inr ⟨[], entry, rest, c, rfl, fun e he => absurd he List.not_mem_nil, hc⟩

theorem extensionSettings_eq (room : Nat) (config : Table Value) :
    extensionSettings room config = (entryTexts room (extensionEntries config)).mapError .crash := by
  unfold extensionSettings extensionEntries
  cases config.get? "extensions" with
  | none => rfl
  | some v => cases v <;> rfl

/-! ## All settings -/

/-- The directory that paths in the configuration are seen from is the one that its file lies in. -/
theorem configDirectory_eq (a : Arguments) : a.configDirectory = a.configPath.parent := by
  unfold Arguments.configDirectory Arguments.configPath
  cases given a.config with
  | some p => rfl
  | none =>
    have hname : Path.ofString configName = ⟨.relative, ["lexlight.toml"]⟩ := by decide
    rw [hname]
    show a.inputDirectory = ⟨a.inputDirectory.root, (a.inputDirectory.names ++ ["lexlight.toml"]).dropLast⟩
    rw [List.dropLast_concat]

theorem themeFrom_eq (a : Arguments) (theme : String) : themeFrom a.configDirectory theme =
    if ".toml".toList <:+ theme.toList then (a.configPath.parent.join (.ofString theme)).toString
    else theme := by
  simp only [themeFrom, configDirectory_eq, List.isSuffixOf_iff_suffix]

/-- **Settings with nothing wrong are merged**, if the entries for extensions have texts. -/
theorem exists_merged (hsound : Sound a config)
    (htexts : ∀ e ∈ extensionEntries config, e.2.HasText room) :
    ∃ o, a.options room config = .ok o ∧ Merged room a config o := by
  obtain ⟨m, hm, hmarkup, hvalue⟩ := markupSetting_of hsound.markup room
  obtain ⟨b, hcombine, hfalse⟩ := combineSetting_of hsound.combine
  obtain ⟨texts, hentries, hall⟩ := entryTexts_of htexts
  have hoptions : a.options room config = .ok {
      input := a.inputPath
      output := (given a.output).map .ofString
      grammar := (given a.grammar).or (stringAt? config "grammar")
      theme := (given a.theme).or ((stringAt? config "theme").map (themeFrom a.configDirectory))
      markup := m
      combined := b && !a.noCombine
      extensions := texts
      watch := a.watch
      debug := a.debug } := by
    unfold Arguments.options
    rw [stringSetting_of hsound.grammar, stringSetting_of hsound.theme, hmarkup, hcombine,
      extensionSettings_eq, hentries]
    rfl
  refine ⟨_, hoptions, rfl, ?_, ⟨hm, hvalue⟩, ?_, rfl, hall⟩
  · simp only [funext (themeFrom_eq a)]
  · rw [← hfalse, or_comm, Bool.and_eq_false_iff, Bool.not_eq_false']

theorem Fails.options_eq {f : SettingsFailure} (h : Fails room a config f) :
    a.options room config = .error f := by
  unfold Arguments.options
  cases h with
  | grammar hgrammar =>
    rw [stringSetting_of_not hgrammar]
    rfl
  | theme hgrammar htheme =>
    rw [stringSetting_of hgrammar, stringSetting_of_not htheme]
    rfl
  | markup hgrammar htheme hmarkup hshown | markupCrash hgrammar htheme hmarkup hshown =>
    rw [stringSetting_of hgrammar, stringSetting_of htheme, markupSetting_of_not hmarkup, markupFailure,
      hshown]
    rfl
  | combine hgrammar htheme hmarkup hcombine =>
    obtain ⟨m, -, hm, -⟩ := markupSetting_of hmarkup room
    rw [stringSetting_of hgrammar, stringSetting_of htheme, hm, combineSetting_of_not hcombine]
    rfl
  | extension hsound hentries hbefore htext =>
    obtain ⟨m, -, hm, -⟩ := markupSetting_of hsound.markup room
    obtain ⟨b, hb, -⟩ := combineSetting_of hsound.combine
    rw [stringSetting_of hsound.grammar, stringSetting_of hsound.theme, hm, hb, extensionSettings_eq,
      hentries, entryTexts_of_not hbefore htext]
    rfl

/-- Settings fail or have nothing wrong. -/
theorem fails_or_sound (room : Nat) (a : Arguments) (config : Table Value) :
    (∃ f, Fails room a config f) ∨
      Sound a config ∧ ∀ e ∈ extensionEntries config, e.2.HasText room := by
  by_cases hgrammar : StringOrAbsent config "grammar"
  case neg => exact Or.inl ⟨_, .grammar hgrammar⟩
  by_cases htheme : StringOrAbsent config "theme"
  case neg => exact Or.inl ⟨_, .theme hgrammar htheme⟩
  by_cases hmarkup : NamesMarkup a config
  case neg =>
    cases hshown : (markupValue a config).shown room with
    | ok shown => exact Or.inl ⟨_, .markup hgrammar htheme hmarkup hshown⟩
    | error c => exact Or.inl ⟨_, .markupCrash hgrammar htheme hmarkup hshown⟩
  by_cases hcombine : BoolOrAbsent config "combine"
  case neg => exact Or.inl ⟨_, .combine hgrammar htheme hmarkup hcombine⟩
  have hsound : Sound a config := ⟨hgrammar, htheme, hmarkup, hcombine⟩
  rcases texts_or_first room (extensionEntries config) with
    htexts | ⟨before, entry, after, c, hentries, hbefore, htext⟩
  · exact Or.inr ⟨hsound, htexts⟩
  · exact Or.inl ⟨_, .extension hsound hentries hbefore htext⟩

/-- **The settings fail with the first that fails.** -/
theorem options_eq_error {f : SettingsFailure} :
    a.options room config = .error f ↔ Fails room a config f := by
  refine ⟨fun h => ?_, Fails.options_eq⟩
  rcases fails_or_sound room a config with ⟨f', hfails⟩ | ⟨hsound, htexts⟩
  · obtain rfl := Except.error.inj (h.symm.trans hfails.options_eq)
    exact hfails
  · obtain ⟨o, ho, -⟩ := exists_merged hsound htexts
    cases h.symm.trans ho

/-- Something wrong, or an entry for an extension without a text, is what makes the settings fail. -/
theorem exists_fails_iff : (∃ f, Fails room a config f) ↔
    ¬ Sound a config ∨ ∃ e ∈ extensionEntries config, ¬ e.2.HasText room := by
  constructor
  · rintro ⟨f, hfails⟩
    by_contra hnone
    obtain ⟨hsound, htexts⟩ := not_or.mp hnone
    obtain ⟨o, ho, -⟩ := exists_merged (not_not.mp hsound) fun e he =>
      by_contra fun htext => htexts ⟨e, he, htext⟩
    cases hfails.options_eq.symm.trans ho
  · intro h
    rcases fails_or_sound room a config with hfails | ⟨hsound, htexts⟩
    · exact hfails
    · rcases h with hunsound | ⟨e, he, htext⟩
      · exact absurd hsound hunsound
      · exact absurd (htexts e he) htext

end Settings

/-! ## The grammar -/

/-- The extension of the input file in lower case, if it has one. -/
def Arguments.extension? (a : Arguments) : Option String :=
  a.inputPath.bind fun p => given (some (normalExtension p.suffix))

/-- The grammars that there may be for a run, the one that counts most first. -/
def grammarChoices (room : Nat) (a : Arguments) (config : Table Value) (r : Registry) :
    List (Option String) :=
  [given a.grammar,
    given (stringAt? config "grammar"),
    a.extension?.bind fun ext =>
      ((extensionEntries config).find? fun entry => normalExtension entry.1 = ext).bind fun entry =>
        (entry.2.text room).toOption,
    a.extension?.bind fun ext => r.extensions.get? ext]

/-- What is found among the texts of entries is the text of what is found among the entries. -/
theorem map_find?_texts {room : Nat} {p : String → Bool} {entries : List (String × Value)}
    {texts : Table String}
    (h : List.Forall₂ (fun entry e => e.1 = entry.1 ∧ entry.2.text room = .ok e.2) entries texts) :
    (texts.find? fun e => p e.1).map (·.2) =
      (entries.find? fun entry => p entry.1).bind fun entry => (entry.2.text room).toOption := by
  induction h with
  | nil => rfl
  | @cons entry e entries texts hentry _ ih =>
    obtain ⟨hkey, htext⟩ := hentry
    rw [List.find?_cons, List.find?_cons, hkey]
    cases p entry.1 with
    | true => simp only [Option.map_some, Option.bind_some, htext, Except.toOption]
    | false => exact ih

theorem given_or (x y : Option String) : given ((given x).or y) = (given x).or (given y) := by
  cases x with
  | none => rfl
  | some s =>
    by_cases hs : s = ""
    · subst hs
      rfl
    · have hgiven : given (some s) = some s := by simp [given, hs]
      rw [hgiven, Option.some_or, Option.some_or, hgiven]

/-- **The grammar is the first that there is.** -/
theorem grammarName_eq {room : Nat} {a : Arguments} {config : Table Value} {o : Options}
    (h : Merged room a config o) (r : Registry) : o.grammarName r =
      match (grammarChoices room a config r).findSome? id with
      | some name => .ok name
      | none => .error .noGrammar := by
  have hpath : (a.inputPath.bind fun p => r.nameForPath? p o.extensions) =
      (a.extension?.bind fun ext =>
        ((extensionEntries config).find? fun entry => normalExtension entry.1 = ext).bind fun entry =>
          (entry.2.text room).toOption).or
      (a.extension?.bind fun ext => r.extensions.get? ext) := by
    unfold Arguments.extension?
    cases a.inputPath with
    | none => rfl
    | some p =>
      by_cases hext : normalExtension p.suffix = ""
      · have hnone : given (some (normalExtension p.suffix)) = none := by simp [given, hext]
        rw [Option.bind_some, Option.bind_some, Registry.nameForPath?, if_pos hext, hnone]
        rfl
      · have hsome : given (some (normalExtension p.suffix)) = some (normalExtension p.suffix) := by
          simp [given, hext]
        have hfind := map_find?_texts (p := fun k => decide (normalExtension k = normalExtension p.suffix))
          h.extensions
        rw [Option.bind_some, Option.bind_some, Registry.nameForPath?, if_neg hext, hsome,
          Option.bind_some, Option.bind_some, ← hfind]
        cases o.extensions.find? fun e => normalExtension e.1 = normalExtension p.suffix <;> rfl
  rw [Options.grammarName, h.grammar, given_or, h.input, hpath]
  unfold grammarChoices
  cases given a.grammar with
  | some name => rfl
  | none =>
    cases given (stringAt? config "grammar") with
    | some name => rfl
    | none =>
      generalize (a.extension?.bind fun ext => r.extensions.get? ext) = known
      generalize (a.extension?.bind fun ext => ((extensionEntries config).find? fun entry =>
        normalExtension entry.1 = ext).bind fun entry => (entry.2.text room).toOption) = entry
      cases entry <;> cases known <;> rfl

/-! ## Arguments of a command line -/

/-- The markup, if there is one, is one of those that can be chosen. -/
def KnownMarkup (a : Arguments) : Prop := ∀ name, a.markup = some name → name ∈ Markup.names

theorem KnownMarkup.set {a a' : Arguments} (h : KnownMarkup a) {s : Switch} (hset : a.set s = .ok a') :
    KnownMarkup a' := by
  cases s <;> cases hset <;> exact h

theorem KnownMarkup.setValue {a a' : Arguments} (h : KnownMarkup a) {s : Switch} {value : String}
    (hset : a.setValue s value = .ok a') : KnownMarkup a' := by
  cases s with
  | markup =>
    unfold Arguments.setValue at hset
    dsimp only at hset
    split at hset
    · next hmem =>
      cases hset
      intro name hname
      obtain rfl := Option.some.inj hname
      exact hmem
    · cases hset
  | _ => cases hset; exact h

theorem KnownMarkup.takeAttached {t t' : Taken} (h : KnownMarkup t.args) {s : Switch} {name : String}
    {v : Attached} {rest : List Word} (htake : takeAttached t s name v rest = .ok t') :
    KnownMarkup t'.args := by
  unfold CommandLine.takeAttached at htake
  split at htake
  · obtain ⟨a, hset, htake⟩ := Except.bind_eq_ok.mp htake
    cases htake
    exact h.setValue hset
  · split at htake <;> cases htake

/-- **Whatever words are taken, the markup is one of those that can be chosen.** -/
theorem KnownMarkup.take {t t' : Taken} {ws : List Word} (h : KnownMarkup t.args)
    (htake : take t ws = .ok t') : KnownMarkup t'.args := by
  fun_induction CommandLine.take t ws generalizing t'
  case case1 =>
    cases htake
    exact h
  -- an option with a value attached, or in the next word
  case case11 ih =>
    obtain ⟨u, hattached, htake⟩ := Except.bind_eq_ok.mp htake
    exact ih u (h.takeAttached hattached) htake
  case case12 ih =>
    obtain ⟨u, hset, htake⟩ := Except.bind_eq_ok.mp htake
    exact ih u (h.setValue hset) htake
  -- an option without a value
  case case13 ih | case15 ih =>
    obtain ⟨u, hset, htake⟩ := Except.bind_eq_ok.mp htake
    exact ih u (h.set hset) htake
  case case14 => cases htake
  -- a word that is the input or left over
  all_goals
    rename_i ih
    exact ih h htake

/-- The markup in arguments that are taken from a command line is not empty. -/
theorem markup_of_ofList {argv : List String} {a : Arguments} (h : Arguments.ofList argv = .ok a) :
    given a.markup = a.markup := by
  have hknown : KnownMarkup a := by
    unfold Arguments.ofList at h
    split at h
    · cases h
    · obtain ⟨t, htake, h⟩ := Except.bind_eq_ok.mp h
      have ht : KnownMarkup t.args := KnownMarkup.take (fun name hname => by cases hname) htake
      split at h
      · cases h
        exact ht
      · cases h
  cases hmarkup : a.markup with
  | none => rfl
  | some name =>
    have hne : name ≠ "" := by
      rintro rfl
      exact absurd (hknown "" hmarkup) (by decide)
    simp [given, hne]

/-! ## The settings of a run -/

/-- **Each setting is taken from the arguments, else from the configuration, else it is the default.**

* The settings fail exactly if something is wrong with them or an entry for an extension has no text, and
  with the first that fails.  Strings in the configuration are looked at even where an argument takes their
  place.  A failure is an error that tells what is wrong, unless a text is needed of a value that has none.
* Else each is merged on its own, and the grammar is the first of four choices; if there is none, it cannot
  be determined.
* A markup that is taken from a command line always takes the place of that in the configuration. -/
theorem options_precedence (room : Nat) (a : Arguments) (config : Table Value) :
    ((∃ f, a.options room config = .error f) ↔
      ¬ Sound a config ∨ ∃ e ∈ extensionEntries config, ¬ e.2.HasText room) ∧
    (∀ f, a.options room config = .error f ↔ Fails room a config f) ∧
    (∀ o, a.options room config = .ok o → Merged room a config o ∧
      ∀ r : Registry, o.grammarName r =
        match (grammarChoices room a config r).findSome? id with
        | some name => .ok name
        | none => .error .noGrammar) ∧
    ∀ argv, Arguments.ofList argv = .ok a → given a.markup = a.markup := by
  refine ⟨?_, fun f => options_eq_error, fun o h => ?_, fun argv h => markup_of_ofList h⟩
  · simp only [options_eq_error, exists_fails_iff]
  · rcases fails_or_sound room a config with ⟨f, hfails⟩ | ⟨hsound, htexts⟩
    · cases hfails.options_eq.symm.trans h
    · obtain ⟨o', ho', hmerged⟩ := exists_merged hsound htexts
      obtain rfl := Except.ok.inj (h.symm.trans ho')
      exact ⟨hmerged, grammarName_eq hmerged⟩

/-- A configuration in another directory names a theme file and a grammar for an extension, and asks for
single tokens; a markup that it does not know is not looked at.  A grammar that is no string is refused
though the arguments name one. -/
theorem options_precedence_mixed :
    (∃ a o, Arguments.ofList ["src/a.LUA", "-m", "html", "--config", "etc/x.toml"] = .ok a ∧
      given a.markup = some "html" ∧
      a.options 1000 [("grammar", .string ""), ("theme", .string "my.toml"), ("markup", .integer 3),
        ("combine", .bool false), ("extensions", .table [("lua", .string "json")])] = .ok o ∧
      o.theme = some "etc/my.toml" ∧ o.markup.name = "html" ∧ o.combined = false ∧
      o.grammarName .builtin = .ok "json") ∧
    ∃ f, ({ grammar := some "lua" } : Arguments).options 1000 [("grammar", .integer 3)] = .error f := by
  let a : Arguments := { input := "src/a.LUA", markup := some "html", config := some "etc/x.toml" }
  have hargs : Arguments.ofList ["src/a.LUA", "-m", "html", "--config", "etc/x.toml"] = .ok a :=
    Except.toOption_eq_some.mp (by decide +kernel)
  obtain ⟨-, -, hmerged, hmarkup⟩ := options_precedence 1000 a [("grammar", .string ""),
    ("theme", .string "my.toml"), ("markup", .integer 3), ("combine", .bool false),
    ("extensions", .table [("lua", .string "json")])]
  obtain ⟨hsettings, hgrammar⟩ := hmerged _ rfl
  obtain ⟨-, name, hname, hnamed⟩ := hsettings.markup
  refine ⟨⟨a, _, hargs, hmarkup _ hargs, rfl, hsettings.theme.trans (by decide +kernel), ?_,
    hsettings.combined.mpr (Or.inr rfl), ?_⟩, ?_⟩
  · cases hname
    exact hnamed.trans (by decide +kernel)
  · exact (hgrammar .builtin).trans (Except.toOption_eq_some.mp (by decide +kernel))
  · refine (options_precedence 1000 _ _).1.mpr (Or.inl fun hsound => ?_)
    obtain h | ⟨s, h⟩ := hsound.grammar _ rfl <;> cases h

/-- A markup that is an integer of 4817 digits names none, but is not refused. -/
theorem options_largeMarkup :
    ¬ NamesMarkup {} [("markup", .integer (Nat.pow 16 4000))] ∧
      ({} : Arguments).options 1000 [("markup", .integer (Nat.pow 16 4000))] =
        .error (.crash .largeInteger) := by
  have hmarkup : ¬ NamesMarkup {} [("markup", .integer (Nat.pow 16 4000))] := by
    rintro ⟨name, hname, -⟩
    cases hname
  have hlarge : tooLarge ≤ (Nat.pow 16 4000 : Int).natAbs := by decide +kernel
  have habsent : ∀ key ≠ "markup", StringOrAbsent [("markup", .integer (Nat.pow 16 4000))] key := by
    intro key hkey v hv
    rw [Table.get?, if_neg hkey.symm] at hv
    cases hv
  exact ⟨hmarkup, Fails.options_eq (.markupCrash (habsent _ (by decide)) (habsent _ (by decide)) hmarkup
    (Value.text_of_large hlarge 999).1)⟩

end Highlight.CommandLine
