import Highlight.Grammar.Registry
import Highlight.Proofs.Tokenize

/-!
# The built-in grammars tokenize every text

Every rule of the built-in tables is regular, and none of its groups matches the empty text.  Both
can be computed (`Rule.isSolid`), so no rule selects an empty span anywhere, and the tables split
every text.

The registry finds the two grammars by their names and by the alias, in any case (`get_builtin`,
`grammars_builtin`), and nothing else (`base_of_get_builtin`).
-/

namespace Highlight

open Text

/-! ## Tables that are checked by computing -/

/-- Whether the pattern of a rule is regular and no group of it matches the empty text. -/
def Rule.isSolid (r : Rule) : Bool :=
  r.pattern.isRegular && r.pattern.bodies.all fun b => !b.2.matchesEmpty

theorem Rule.neverEmpty_of_isSolid {r : Rule} (h : r.isSolid = true) : r.NeverEmpty := by
  unfold Rule.isSolid at h
  rw [Bool.and_eq_true, List.all_eq_true] at h
  refine neverEmpty_of_bodies h.1 fun b hb => ?_
  simpa using h.2 b hb

theorem Json.neverEmpty_of_mem_rules : ∀ r ∈ Json.rules, r.NeverEmpty := by
  have hsolid : ∀ r ∈ Json.rules, r.isSolid = true := by decide
  exact fun r hr => Rule.neverEmpty_of_isSolid (hsolid r hr)

theorem Lua.neverEmpty_of_mem_rules : ∀ r ∈ Lua.rules, r.NeverEmpty := by
  have hsolid : ∀ r ∈ Lua.rules, r.isSolid = true := by decide
  exact fun r hr => Rule.neverEmpty_of_isSolid (hsolid r hr)

/-- What a base sets up has no rule that selects an empty span. -/
theorem BaseGrammar.exists_setUp (b : BaseGrammar) (source : List Char) :
    ∃ s, b.grammar.setUp { source } = .ok s ∧ ∀ r ∈ s.rules, r.NeverEmpty := by
  cases b with
  | plain => exact ⟨_, rfl, fun _ hr => absurd hr List.not_mem_nil⟩
  | json => exact ⟨_, rfl, Json.neverEmpty_of_mem_rules⟩
  | lua => exact ⟨_, rfl, Lua.neverEmpty_of_mem_rules⟩

/-- A base has tokens for every text, and they make it up. -/
theorem BaseGrammar.exists_tokenize (b : BaseGrammar) (source : List Char) (combined : Bool) :
    ∃ ts, tokenize b.grammar source combined = .ok ts ∧ (∀ t ∈ ts, t.content ≠ []) ∧
      contents ts = source := by
  obtain ⟨s, hs, hrules⟩ := b.exists_setUp source
  obtain ⟨ts, hok, hne⟩ := b.byTable.exists_tokenize hs hrules combined
  exact ⟨ts, hok, hne, b.byTable.contents_tokenize hok⟩

/-! ## The registry -/

/-- The names of the grammars built in, and the alias of the second. -/
def builtinNames : List String := ["json", "lua", "luau"]

/-- **Each name, in any case, stands for a base** whose rules select no empty span. -/
theorem get_builtin {name : String} (h : lower name ∈ builtinNames) :
    ∃ b : BaseGrammar, Registry.builtin.get name = .ok b.grammar ∧
      ∀ source, ∃ s, b.grammar.setUp { source } = .ok s ∧ ∀ r ∈ s.rules, r.NeverEmpty := by
  unfold Registry.get Registry.key
  -- the tables of the registry are fixed, so each of the three names is looked up by computing
  simp only [builtinNames, List.mem_cons, List.not_mem_nil, or_false] at h
  rcases h with h | h | h
  · rw [h]
    exact ⟨.json, rfl, BaseGrammar.exists_setUp .json⟩
  · rw [h]
    exact ⟨.lua, rfl, BaseGrammar.exists_setUp .lua⟩
  · rw [h]
    exact ⟨.lua, rfl, BaseGrammar.exists_setUp .lua⟩

/-- The built-in grammars by their names and the alias. -/
def namedBases : Table BaseGrammar := [("json", .json), ("lua", .lua), ("luau", .lua)]

/-- What stands for a name leads to the built-in grammar of that name, if there is one. -/
theorem grammars_builtin (name : String) : Registry.builtin.grammars.get? (Registry.builtin.key name) =
    (namedBases.get? (lower name)).map (·.grammar) := by
  have hgrammars : Registry.builtin.grammars =
      [("json", BaseGrammar.json.grammar), ("lua", BaseGrammar.lua.grammar)] := rfl
  have haliases : Registry.builtin.aliases = [("luau", "lua")] := rfl
  unfold Registry.key namedBases
  rw [hgrammars, haliases]
  by_cases halias : lower name = "luau"
  · rw [halias]
    rfl
  · simp only [Table.get?, Ne.symm halias, if_false, Option.getD_none]
    repeat' split
    all_goals rfl

/-- The registry finds nothing but the grammars of bases. -/
theorem base_of_get_builtin {name : String} {g : Grammar} (h : Registry.builtin.get name = .ok g) :
    ∃ b : BaseGrammar, g = b.grammar := by
  unfold Registry.get at h
  rw [grammars_builtin] at h
  cases hnamed : namedBases.get? (lower name) with
  | some b =>
    rw [hnamed] at h
    exact ⟨b, (Except.ok.inj h).symm⟩
  | none =>
    rw [hnamed] at h
    cases h

/-! ## The built-in grammars -/

/-- A step by rules that select no empty span succeeds, and moves the cursor forward. -/
theorem BaseGrammar.exists_step (b : BaseGrammar) {s : LexerState} (hrules : ∀ r ∈ s.rules, r.NeverEmpty)
    (hc : s.cursor < s.source.length) : ∃ t, b.grammar.step s = .ok t ∧ s.cursor < t.cursor ∧
      t.cursor ≤ s.source.length := by
  obtain ⟨ts, stop, h⟩ := exists_splitStep hrules s.source s.cursor
  obtain ⟨hlt, hle⟩ := splitStep_advances hc h
  exact ⟨_, step_of_splitStep b.step_eq h, Int.ofNat_lt.mpr hlt, Int.ofNat_le.mpr hle⟩

/-- **The built-in grammars tokenize every text.**  No rule of theirs selects an empty span, every
step moves the cursor forward, and under every name there are tokens for every text: they make it
up, and none is empty. -/
theorem exists_tokenize_of_builtin :
    (∀ r ∈ Json.rules ++ Lua.rules, ∀ (source : List Char) (cursor : Nat) (span : Span),
      r.find source cursor = some span → span.start < span.stop) ∧
    (∀ (b : BaseGrammar) (s : LexerState), s.rules ∈ [Json.rules, Lua.rules] →
      s.cursor < s.source.length → ∃ t, b.grammar.step s = .ok t ∧ s.cursor < t.cursor ∧
        t.cursor ≤ s.source.length) ∧
    ∀ name : String, lower name ∈ builtinNames → ∃ g, Registry.builtin.get name = .ok g ∧
      ∀ (source : List Char) (combined : Bool), ∃ ts, tokenize g source combined = .ok ts ∧
        (∀ t ∈ ts, t.content ≠ []) ∧ contents ts = source := by
  refine ⟨?_, ?_, ?_⟩
  · intro r hr source cursor span hfind
    have hne : r.NeverEmpty := by
      rcases List.mem_append.mp hr with hr | hr
      · exact Json.neverEmpty_of_mem_rules r hr
      · exact Lua.neverEmpty_of_mem_rules r hr
    rw [Rule.find_eq] at hfind
    obtain ⟨selected, hselect, rfl⟩ := Option.map_eq_some_iff.mp hfind
    exact Nat.add_lt_add_right (hne _ _ hselect) cursor
  · intro b s hs hc
    rcases List.mem_cons.mp hs with hs | hs
    · exact b.exists_step (hs ▸ Json.neverEmpty_of_mem_rules) hc
    · exact b.exists_step (List.mem_singleton.mp hs ▸ Lua.neverEmpty_of_mem_rules) hc
  · intro name hname
    obtain ⟨b, hget, hsetUp⟩ := get_builtin hname
    refine ⟨b.grammar, hget, fun source combined => ?_⟩
    obtain ⟨s, hs, hrules⟩ := hsetUp source
    obtain ⟨ts, hok, hne⟩ := b.byTable.exists_tokenize hs hrules combined
    exact ⟨ts, hok, hne, b.byTable.contents_tokenize hok⟩

/-- A constructor in a list, a step of JSON on a colon, and the alias of Lua in mixed case on an
open call. -/
theorem exists_tokenize_of_alias :
    (Json.constructor.find ['(', 'v', '(', '1', ')'] 1 = some ⟨1, 2⟩ ∧ 1 < 2) ∧
    (∃ t, Json.grammar.step { source := [':'], rules := Json.rules } = .ok t ∧ 0 < t.cursor) ∧
    ∃ g ts, Registry.builtin.get "LuaU" = .ok g ∧ tokenize g ['f', '(', ' '] false = .ok ts ∧
      (∀ t ∈ ts, t.content ≠ []) ∧ contents ts = ['f', '(', ' '] := by
  obtain ⟨hspan, hstep, htokens⟩ := exists_tokenize_of_builtin
  have hfind : Json.constructor.find ['(', 'v', '(', '1', ')'] 1 = some ⟨1, 2⟩ := rfl
  have hmem : Json.constructor ∈ Json.rules ++ Lua.rules := by simp [Json.rules]
  have hname : lower "LuaU" ∈ builtinNames := by decide
  obtain ⟨t, hok, hlt, _⟩ := hstep .json { source := [':'], rules := Json.rules } (by simp) (by decide)
  obtain ⟨g, hget, hall⟩ := htokens "LuaU" hname
  obtain ⟨ts, hts⟩ := hall ['f', '(', ' '] false
  exact ⟨⟨hfind, hspan _ hmem _ _ _ hfind⟩, ⟨t, hok, hlt⟩, g, ts, hget, hts⟩

end Highlight
