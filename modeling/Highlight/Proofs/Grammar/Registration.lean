import Highlight.Grammar.Custom
import Highlight.Grammar.Registry
import Highlight.Proofs.Text.LetterCase

/-!
# What a registration changes

A grammar is found under its aliases right after it has been registered, whatever was registered before,
since new aliases take the place of old ones (`key_register`).  Its own name is looked up as an alias
first.  So it is found under its name, and for its extensions, unless an older alias of the same spelling
leads elsewhere (`Hides`): then that older grammar is found as before.

That there always is an older grammar is an invariant of registering: every alias leads to a registered
name (`AliasesKnown`, kept by `aliasesKnown_register`).
-/

namespace Highlight.Registry

open Text

/-! ## Registries that can come about -/

/-- The registries that registering makes from the built-in one. -/
inductive Reachable : Registry → Prop
  | builtin : Reachable .builtin
  | register {r : Registry} (h : Reachable r) (name : String) (g : Grammar)
      (aliases extensions : List String) : Reachable (r.register name g aliases extensions)

/-- Every alias leads to a registered name. -/
def AliasesKnown (r : Registry) : Prop :=
  ∀ a k, r.aliases.get? a = some k → ∃ g, r.grammars.get? k = some g

section Register

variable (r : Registry) (name : String) (g : Grammar) (aliases extensions : List String)

theorem grammars_register_self :
    (r.register name g aliases extensions).grammars.get? (lower name) = some g :=
  Table.get?_put_self r.grammars (lower name) g

theorem grammars_register_of_ne {k : String} (h : k ≠ lower name) :
    (r.register name g aliases extensions).grammars.get? k = r.grammars.get? k :=
  Table.get?_put_of_ne r.grammars g h.symm

theorem aliases_register (a : String) : (r.register name g aliases extensions).aliases.get? a =
    if a ∈ aliases.map lower then some (lower name) else r.aliases.get? a :=
  Table.get?_foldl_put lower (lower name) a aliases r.aliases

theorem extensions_register (ext : String) :
    (r.register name g aliases extensions).extensions.get? ext =
      if ext ∈ extensions.map normalExtension then some (lower name) else r.extensions.get? ext :=
  Table.get?_foldl_put normalExtension (lower name) ext extensions r.extensions

/-- What a name stands for after a registration. -/
theorem key_register (n : String) : (r.register name g aliases extensions).key n =
    if lower n ∈ aliases.map lower then lower name else r.key n := by
  rw [key, aliases_register]
  split <;> rfl

variable {r}

theorem aliasesKnown_register (h : r.AliasesKnown) :
    (r.register name g aliases extensions).AliasesKnown := by
  intro a k halias
  by_cases hk : k = lower name
  · exact ⟨g, hk ▸ grammars_register_self r name g aliases extensions⟩
  · rw [grammars_register_of_ne r name g aliases extensions hk]
    rw [aliases_register] at halias
    split at halias
    · exact absurd (Option.some.inj halias).symm hk
    · exact h a k halias

end Register

theorem aliasesKnown_builtin : builtin.AliasesKnown :=
  aliasesKnown_register _ _ _ _ (aliasesKnown_register _ _ _ _ fun _ _ h => absurd h (by simp [Table.get?]))

theorem Reachable.aliasesKnown {r : Registry} (h : r.Reachable) : r.AliasesKnown := by
  induction h with
  | builtin => exact aliasesKnown_builtin
  | register _ name g aliases extensions ih => exact aliasesKnown_register name g aliases extensions ih

/-! ## What is found after a registration -/

/-- An older alias of the same spelling as the name of a registration leads elsewhere, and the
registration does not take it over. -/
def Hides (r : Registry) (name : String) (aliases : List String) : Prop :=
  (∃ k, r.aliases.get? (lower name) = some k ∧ k ≠ lower name) ∧ lower name ∉ aliases.map lower

section Get

variable {r : Registry} {name : String} {aliases : List String}

theorem get_of_grammars {n : String} {g : Grammar} (h : r.grammars.get? (r.key n) = some g) :
    r.get n = .ok g := by
  rw [get, h]

theorem get_eq_of_lower_eq {m n : String} (h : lower m = lower n) {g : Grammar} (hm : r.get m = .ok g) :
    r.get n = .ok g := by
  have hkey : r.key m = r.key n := by rw [key, key, h]
  rw [get, hkey] at hm
  rw [get]
  split at hm
  · exact hm
  · cases hm

/-- A name that stands for the name of the registration leads to the new grammar. -/
theorem get_register_of_key (g : Grammar) (extensions : List String) {n : String}
    (h : (r.register name g aliases extensions).key n = lower name) :
    (r.register name g aliases extensions).get n = .ok g :=
  get_of_grammars (h ▸ grammars_register_self r name g aliases extensions)

/-- Unless an older alias hides it, the name stands for itself. -/
theorem key_register_name (h : ¬ r.Hides name aliases) (g : Grammar) (extensions : List String)
    {n : String} (hn : lower n = lower name) :
    (r.register name g aliases extensions).key n = lower name := by
  rw [key_register, hn]
  split
  · rfl
  · next hnot =>
    rw [key, hn]
    cases hk : r.aliases.get? (lower name) with
    | none => rfl
    | some k =>
      by_cases heq : k = lower name
      · exact heq
      · exact absurd ⟨⟨k, hk, heq⟩, hnot⟩ h

/-- A name that is hidden leads where it led before. -/
theorem get_register_of_hides (hknown : r.AliasesKnown) (h : r.Hides name aliases) (g : Grammar)
    (extensions : List String) :
    ∃ old, r.get name = .ok old ∧ (r.register name g aliases extensions).get name = .ok old := by
  obtain ⟨⟨k, hk, hne⟩, hnot⟩ := h
  obtain ⟨old, hold⟩ := hknown _ k hk
  have hkey : r.key name = k := by rw [key, hk]; rfl
  refine ⟨old, get_of_grammars (hkey.symm ▸ hold), get_of_grammars ?_⟩
  rw [key_register, if_neg hnot, hkey, grammars_register_of_ne r name g aliases extensions hne]
  exact hold

/-- A path with an extension is looked up by its extension alone. -/
theorem forPath_of_extensions {p : Path} {k : String} {g : Grammar} (hne : normalExtension p.suffix ≠ "")
    (hk : r.extensions.get? (normalExtension p.suffix) = some k) (hget : r.get k = .ok g) :
    r.forPath p = .ok (some g) := by
  have hname : r.nameForPath? p = some k := by
    unfold nameForPath?
    simp only [hne, if_false, List.find?_nil, hk]
  unfold forPath
  simp only [hname, hget, Except.map]

/-- For the extensions of a registration the grammar is that of its name. -/
theorem forPath_register {g h : Grammar} {extensions : List String} {p : Path} {ext : String}
    (hext : ext ∈ extensions) (hsuffix : normalExtension p.suffix = normalExtension ext)
    (hne : normalExtension p.suffix ≠ "")
    (hget : (r.register name g aliases extensions).get name = .ok h) :
    (r.register name g aliases extensions).forPath p = .ok (some h) := by
  refine forPath_of_extensions hne ?_ (get_eq_of_lower_eq (lower_lower name).symm hget)
  rw [extensions_register, hsuffix, if_pos (List.mem_map_of_mem hext)]

end Get

/-- The normal form with the dot looked for among the characters, which evaluates. -/
theorem normalExtension_eq (ext : String) : normalExtension ext =
    if lower ext = "" ∨ ['.'] <+: (lower ext).toList then lower ext else "." ++ lower ext := by
  unfold normalExtension
  simp only [Bool.or_eq_true, decide_eq_true_eq, String.startsWith_string_iff]
  rfl

/-- **What a registration changes**, in every registry that can come about.  The new grammar is found
under each of its aliases.  It is found under its name and for its extensions unless an older alias hides
the name; then the grammar of that alias is found there, as it was before. -/
theorem get_register {r : Registry} (hr : r.Reachable) (name : String) (g : Grammar)
    (aliases extensions : List String) :
    (∀ a ∈ aliases, ∀ n, lower n = lower a →
      (r.register name g aliases extensions).get n = .ok g) ∧
    (¬ r.Hides name aliases →
      (∀ n, lower n = lower name → (r.register name g aliases extensions).get n = .ok g) ∧
      ∀ ext ∈ extensions, ∀ p : Path, normalExtension p.suffix = normalExtension ext →
        normalExtension p.suffix ≠ "" →
        (r.register name g aliases extensions).forPath p = .ok (some g)) ∧
    (r.Hides name aliases → ∃ old, r.get name = .ok old ∧
      (∀ n, lower n = lower name → (r.register name g aliases extensions).get n = .ok old) ∧
      ∀ ext ∈ extensions, ∀ p : Path, normalExtension p.suffix = normalExtension ext →
        normalExtension p.suffix ≠ "" →
        (r.register name g aliases extensions).forPath p = .ok (some old)) := by
  refine ⟨fun a ha n hn => ?_, fun hfree => ⟨fun n hn => ?_, fun ext hext p hsuffix hne => ?_⟩,
    fun hhides => ?_⟩
  · refine get_register_of_key g extensions ?_
    rw [key_register, hn, if_pos (List.mem_map_of_mem ha)]
  · exact get_register_of_key g extensions (key_register_name hfree g extensions hn)
  · exact forPath_register hext hsuffix hne
      (get_register_of_key g extensions (key_register_name hfree g extensions rfl))
  · obtain ⟨old, hold, hnew⟩ := get_register_of_hides hr.aliasesKnown hhides g extensions
    exact ⟨old, hold, fun n hn => get_eq_of_lower_eq hn.symm hnew, fun ext hext p hsuffix hne =>
      forPath_register hext hsuffix hne hnew⟩

/-- A grammar that takes an alias of Lua over, and one whose name is that alias. -/
theorem get_register_config :
    let plain := BaseGrammar.plain.grammar
    let r := builtin.register "Config" plain ["LuaU"] [".CFG"]
    let hidden := builtin.register "LUAU" plain [] ["x"]
    (Reachable builtin ∧ ¬ builtin.Hides "Config" ["LuaU"] ∧ r.get "luau" = .ok plain ∧
      r.get "CONFIG" = .ok plain ∧ r.forPath ⟨.relative, ["a.cfg"]⟩ = .ok (some plain)) ∧
    builtin.Hides "LUAU" [] ∧ ∃ old, builtin.get "LUAU" = .ok old ∧ hidden.get "luau" = .ok old ∧
      hidden.forPath ⟨.relative, ["a.X"]⟩ = .ok (some old) := by
  intro plain r hidden
  have hfree : ¬ builtin.Hides "Config" ["LuaU"] := by
    rintro ⟨⟨k, hk, -⟩, -⟩
    have hnone : builtin.aliases.get? (lower "Config") = none := by decide
    exact absurd (hk.symm.trans hnone) (by simp)
  have hhides : builtin.Hides "LUAU" [] := ⟨⟨"lua", by decide, by decide⟩, by decide⟩
  obtain ⟨halias, hname, -⟩ := get_register .builtin "Config" plain ["LuaU"] [".CFG"]
  obtain ⟨hself, hpath⟩ := hname hfree
  obtain ⟨-, -, hold⟩ := get_register .builtin "LUAU" plain [] ["x"]
  obtain ⟨old, hget, hnew, hext⟩ := hold hhides
  exact ⟨⟨.builtin, hfree, halias "LuaU" (by decide) "luau" (by decide), hself "CONFIG" (by decide),
    hpath ".CFG" (by decide) _ (by rw [normalExtension_eq, normalExtension_eq]; decide)
      (by rw [normalExtension_eq]; decide)⟩,
    hhides, old, hget, hnew "luau" (by decide), hext "x" (by decide) _
      (by rw [normalExtension_eq, normalExtension_eq]; decide) (by rw [normalExtension_eq]; decide)⟩

/-- A grammar registered under the alias of a built-in one is not found under its own name. -/
theorem get_register_alias :
    let mine := { BaseGrammar.plain.grammar with name := "mine" }
    Reachable builtin ∧ (builtin.register "luau" mine).get "luau" = .ok Lua.grammar ∧
      (builtin.register "luau" mine).get "luau" ≠ .ok mine := by
  intro mine
  have hget : (builtin.register "luau" mine).get "luau" = .ok Lua.grammar := by
    refine get_of_grammars ?_
    rw [key_register, if_neg (by decide), show builtin.key "luau" = "lua" by decide]
    rfl
  refine ⟨.builtin, hget, fun h => ?_⟩
  have hname : "lua" = "mine" := congrArg Grammar.name (Except.ok.inj (hget.symm.trans h))
  exact absurd hname (by decide)

end Highlight.Registry
