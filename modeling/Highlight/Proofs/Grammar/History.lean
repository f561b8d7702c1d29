import Highlight.Editor.Workspace
import Highlight.Proofs.Grammar.Registration
import Mathlib.Data.List.Induction

/-!
# A registry as the history of its registrations

What a registry finds is known from the registrations that made it: of those with a name, an alias or an
extension, the latest has said where it leads (`grammars_enterAll`, `aliases_enterAll`,
`extensions_enterAll`, by induction on the history from its end).

So aliases and extensions lead to names of registrations, and there is a grammar exactly for the names and
aliases of registrations (`exists_get_iff`).  Nothing that was ever registered is lost
(`lookup_enterAll`): it may come to lead elsewhere, but never to nothing.
-/

namespace Highlight

open Text

/-- A grammar and what it is registered under. -/
structure Registration where
  name : String
  grammar : Grammar
  aliases : List String := []
  extensions : List String := []

/-- A name is that of a registration or one of its aliases, in any case. -/
def Registration.Answers (x : Registration) (n : String) : Prop :=
  lower n = lower x.name ∨ lower n ∈ x.aliases.map lower

namespace Registry

/-! ## Histories -/

/-- The registry after a registration. -/
def enter (r : Registry) (x : Registration) : Registry :=
  r.register x.name x.grammar x.aliases x.extensions

/-- The registry after some registrations, from the earliest to the latest. -/
def enterAll (r : Registry) (history : List Registration) : Registry := history.foldl enter r

/-- The registrations of the built-in grammars. -/
def builtinHistory : List Registration :=
  [{ name := "json", grammar := Json.grammar, extensions := [".json"] },
   { name := "lua", grammar := Lua.grammar, aliases := ["luau"], extensions := [".lua", ".luau"] }]

theorem enterAll_builtinHistory : ({} : Registry).enterAll builtinHistory = builtin := rfl

theorem enterAll_append (r : Registry) (history later : List Registration) :
    r.enterAll (history ++ later) = (r.enterAll history).enterAll later := List.foldl_append

theorem enterAll_concat (r : Registry) (history : List Registration) (x : Registration) :
    r.enterAll (history ++ [x]) = (r.enterAll history).enter x := enterAll_append r history [x]

/-- The registries that can come about are those with such a history. -/
theorem reachable_iff {r : Registry} : r.Reachable ↔ ∃ later, r = builtin.enterAll later := by
  constructor
  · intro h
    induction h with
    | builtin => exact ⟨[], rfl⟩
    | register _ name g aliases extensions ih =>
      obtain ⟨later, rfl⟩ := ih
      refine ⟨later ++ [⟨name, g, aliases, extensions⟩], ?_⟩
      rw [enterAll_concat]
      unfold enter
      rfl
  · rintro ⟨later, rfl⟩
    induction later using List.reverseRecOn with
    | nil => exact .builtin
    | append_singleton later x ih =>
      rw [enterAll_concat]
      exact ih.register x.name x.grammar x.aliases x.extensions

/-! ## The latest registration wins -/

/-- The latest registration with a property. -/
def latest? (history : List Registration) (p : Registration → Bool) : Option Registration :=
  history.reverse.find? p

section Latest

variable {history : List Registration} {p : Registration → Bool} {x : Registration}

theorem latest?_concat (history : List Registration) (x : Registration) (p : Registration → Bool) :
    latest? (history ++ [x]) p = if p x then some x else latest? history p := by
  unfold latest?
  rw [List.reverse_concat, List.find?_cons]
  cases p x <;> rfl

theorem of_latest? (h : latest? history p = some x) : x ∈ history ∧ p x = true :=
  ⟨List.mem_reverse.mp (List.mem_of_find?_eq_some h), List.find?_some h⟩

theorem exists_latest? (hx : x ∈ history) (hp : p x = true) : ∃ y, latest? history p = some y :=
  Option.isSome_iff_exists.mp (List.find?_isSome.mpr ⟨x, List.mem_reverse.mpr hx, hp⟩)

theorem latest?_eq_none : latest? history p = none ↔ ∀ x ∈ history, ¬ p x = true := by
  unfold latest?
  simp

end Latest

theorem grammars_enterAll (history : List Registration) (k : String) :
    (({} : Registry).enterAll history).grammars.get? k =
      (latest? history fun x => lower x.name = k).map (·.grammar) := by
  induction history using List.reverseRecOn with
  | nil => rfl
  | append_singleton history x ih =>
    rw [enterAll_concat, latest?_concat, enter]
    by_cases hk : lower x.name = k
    · simp [← hk, grammars_register_self]
    · simp [hk, grammars_register_of_ne _ _ _ _ _ (Ne.symm hk), ih]

theorem aliases_enterAll (history : List Registration) (a : String) :
    (({} : Registry).enterAll history).aliases.get? a =
      (latest? history fun x => a ∈ x.aliases.map lower).map (lower ·.name) := by
  induction history using List.reverseRecOn with
  | nil => rfl
  | append_singleton history x ih =>
    rw [enterAll_concat, latest?_concat, enter, aliases_register, ih]
    by_cases ha : a ∈ x.aliases.map lower <;> simp only [ha, if_true, if_false, decide_true,
      decide_false, Bool.false_eq_true, Option.map_some]

theorem extensions_enterAll (history : List Registration) (ext : String) :
    (({} : Registry).enterAll history).extensions.get? ext =
      (latest? history fun x => ext ∈ x.extensions.map normalExtension).map (lower ·.name) := by
  induction history using List.reverseRecOn with
  | nil => rfl
  | append_singleton history x ih =>
    rw [enterAll_concat, latest?_concat, enter, extensions_register, ih]
    by_cases he : ext ∈ x.extensions.map normalExtension <;> simp only [he, if_true, if_false,
      decide_true, decide_false, Bool.false_eq_true, Option.map_some]

/-! ## What is found -/

/-- A name is known exactly if it has a grammar. -/
theorem knows_iff {r : Registry} {n : String} : r.knows n = true ↔ ∃ g, r.get n = .ok g := by
  unfold knows get
  cases r.grammars.get? (r.key n) <;> simp

section Found

variable {history : List Registration}

/-- The grammars are those of the names of registrations. -/
theorem exists_grammars_iff {k : String} :
    (∃ g, (({} : Registry).enterAll history).grammars.get? k = some g) ↔
      ∃ x ∈ history, lower x.name = k := by
  rw [grammars_enterAll]
  constructor
  · rintro ⟨g, hg⟩
    obtain ⟨x, hx, -⟩ := Option.map_eq_some_iff.mp hg
    obtain ⟨hmem, hname⟩ := of_latest? hx
    exact ⟨x, hmem, of_decide_eq_true hname⟩
  · rintro ⟨x, hx, hname⟩
    obtain ⟨y, hy⟩ := exists_latest? (p := fun x => lower x.name = k) hx (decide_eq_true hname)
    exact ⟨y.grammar, by rw [hy]; rfl⟩

/-- **There is a grammar exactly for the names and aliases of registrations.** -/
theorem exists_get_iff {n : String} :
    (∃ g, (({} : Registry).enterAll history).get n = .ok g) ↔ ∃ x ∈ history, x.Answers n := by
  have hget : (∃ g, (({} : Registry).enterAll history).get n = .ok g) ↔
      ∃ x ∈ history, lower x.name = (({} : Registry).enterAll history).key n := by
    rw [← exists_grammars_iff, ← knows_iff]
    exact Option.isSome_iff_exists
  rw [hget, key, aliases_enterAll]
  cases halias : latest? history fun x => lower n ∈ x.aliases.map lower with
  | some y =>
    obtain ⟨hy, hmem⟩ := of_latest? halias
    exact iff_of_true ⟨y, hy, rfl⟩ ⟨y, hy, Or.inr (of_decide_eq_true hmem)⟩
  | none =>
    -- without an alias, the name stands for itself
    have hnot : ∀ x ∈ history, lower n ∉ x.aliases.map lower := fun x hx hmem =>
      latest?_eq_none.mp halias x hx (decide_eq_true hmem)
    constructor
    · rintro ⟨x, hx, hname⟩
      exact ⟨x, hx, Or.inl hname.symm⟩
    · rintro ⟨x, hx, hname | hmem⟩
      · exact ⟨x, hx, hname.symm⟩
      · exact absurd hmem (hnot x hx)

/-- An extension leads to the name of a registration. -/
theorem name_of_extensions {ext k : String}
    (h : (({} : Registry).enterAll history).extensions.get? ext = some k) :
    ∃ x ∈ history, k = lower x.name := by
  rw [extensions_enterAll] at h
  obtain ⟨x, hx, rfl⟩ := Option.map_eq_some_iff.mp h
  exact ⟨x, (of_latest? hx).1, rfl⟩

/-- The name of a registration in lower case has a grammar. -/
theorem exists_get_lower {x : Registration} (hx : x ∈ history) :
    ∃ g, (({} : Registry).enterAll history).get (lower x.name) = .ok g :=
  exists_get_iff.mpr ⟨x, hx, Or.inl (lower_lower x.name)⟩

/-- The extensions of a registration stay, and lead to a grammar. -/
theorem exists_of_extension {x : Registration} {ext : String} (hx : x ∈ history)
    (hext : ext ∈ x.extensions) :
    ∃ k g, (({} : Registry).enterAll history).extensions.get? (normalExtension ext) = some k ∧
      (({} : Registry).enterAll history).get k = .ok g := by
  obtain ⟨y, hy⟩ := exists_latest? (p := fun x => normalExtension ext ∈ x.extensions.map normalExtension)
    hx (decide_eq_true (List.mem_map_of_mem hext))
  obtain ⟨g, hg⟩ := exists_get_lower (of_latest? hy).1
  exact ⟨lower y.name, g, by rw [extensions_enterAll, hy]; rfl, hg⟩

/-- A path has no grammar or one that is found. -/
theorem exists_forPath (p : Path) : ∃ g?, (({} : Registry).enterAll history).forPath p = .ok g? := by
  unfold forPath
  cases hname : (({} : Registry).enterAll history).nameForPath? p with
  | none => exact ⟨none, rfl⟩
  | some k =>
    have hext : (({} : Registry).enterAll history).extensions.get? (normalExtension p.suffix) =
        some k := by
      unfold nameForPath? at hname
      dsimp only at hname
      split at hname
      · cases hname
      · exact hname
    obtain ⟨x, hx, rfl⟩ := name_of_extensions hext
    obtain ⟨g, hg⟩ := exists_get_lower hx
    exact ⟨some g, by simp only [hg]; rfl⟩

end Found

/-! ## The names -/

section Names

/-- Strings that are sorted and differ rise. -/
theorem pairwise_sortStrings {l : List String} (h : l.Nodup) : (sortStrings l).Pairwise (· < ·) := by
  have hsorted : (sortStrings l).Pairwise fun s t => decide (s ≤ t) = true := by
    refine List.pairwise_mergeSort (fun s t u hst htu => ?_) (fun s t => ?_) l
    · simp only [decide_eq_true_eq] at hst htu ⊢
      exact String.le_trans hst htu
    · simp only [Bool.or_eq_true, decide_eq_true_eq]
      exact String.le_total s t
  have hnodup : (sortStrings l).Nodup := (List.mergeSort_perm l _).nodup_iff.mpr h
  refine List.Pairwise.imp₂ (fun s t hle hne => ?_) hsorted hnodup
  by_contra hlt
  exact hne (String.le_antisymm (of_decide_eq_true hle) (String.not_lt.mp hlt))

theorem nodup_grammars (history : List Registration) :
    (({} : Registry).enterAll history).grammars.keys.Nodup := by
  induction history using List.reverseRecOn with
  | nil => exact List.nodup_nil
  | append_singleton history x ih =>
    rw [enterAll_concat]
    exact Table.nodup_keys_put ih (lower x.name) x.grammar

theorem mem_names_iff {history : List Registration} {n : String} :
    n ∈ (({} : Registry).enterAll history).names ↔ ∃ x ∈ history, lower x.name = n := by
  rw [← exists_grammars_iff, ← Table.mem_keys_iff]
  exact List.mem_mergeSort

end Names

/-! ## Extensions for one lookup -/

section Extra

variable {r : Registry} {p : Path}

/-- Without an extension there is no name, whatever the extra extensions are. -/
theorem nameForPath?_of_suffix (h : normalExtension p.suffix = "") (extra : Table String) :
    r.nameForPath? p extra = none := by
  unfold nameForPath?
  exact if_pos h

/-- The first extra entry with the extension of the path decides. -/
theorem nameForPath?_of_extra (h : normalExtension p.suffix ≠ "") {before after : Table String}
    {ext name : String} (hbefore : ∀ e ∈ before, normalExtension e.1 ≠ normalExtension p.suffix)
    (hext : normalExtension ext = normalExtension p.suffix) :
    r.nameForPath? p (before ++ (ext, name) :: after) = some name := by
  have hnone : before.find? (fun e => normalExtension e.1 = normalExtension p.suffix) = none := by
    simpa using hbefore
  unfold nameForPath?
  simp [h, List.find?_append, hnone, hext]

/-- Extra entries with other extensions do nothing. -/
theorem nameForPath?_of_forall {extra : Table String}
    (h : ∀ e ∈ extra, normalExtension e.1 ≠ normalExtension p.suffix) :
    r.nameForPath? p extra = r.nameForPath? p := by
  have hnone : extra.find? (fun e => normalExtension e.1 = normalExtension p.suffix) = none := by
    simpa using h
  unfold nameForPath?
  simp [hnone]

end Extra

/-! ## Nothing registered is lost -/

/-- A document has no grammar or one that is found, whatever has been registered. -/
theorem Reachable.exists_grammarFor {r : Registry} (h : r.Reachable) (language uri : String) :
    ∃ g?, Document.grammarFor r language uri = .ok g? := by
  obtain ⟨later, rfl⟩ := reachable_iff.mp h
  rw [← enterAll_builtinHistory, ← enterAll_append]
  unfold Document.grammarFor
  split
  · next hknown =>
    obtain ⟨g, hg⟩ := knows_iff.mp (Bool.and_eq_true_iff.mp hknown).2
    exact ⟨some g, by rw [hg]; rfl⟩
  · exact exists_forPath (.ofString uri)

/-- **Nothing that was ever registered is lost**, whatever is registered after the built-in grammars.

* A name is known exactly if it has a grammar, which is exactly if it is the name or an alias of some
  registration, in any case.
* The names are those of the registrations, in strictly rising order, and each has a grammar.  Each alias
  of a registration has one, and each extension leads to a name that has one.
* A path has no grammar, or one that is found.
* The first extra entry with the extension of the path decides before the table does, entries with other
  extensions do nothing, and a path without an extension has no name, whatever the entries are. -/
theorem lookup_enterAll (later : List Registration) :
    let all := builtinHistory ++ later
    let r := builtin.enterAll later
    (∀ n, (r.knows n = true ↔ ∃ g, r.get n = .ok g) ∧ (r.knows n = true ↔ ∃ x ∈ all, x.Answers n)) ∧
    (r.names.Pairwise (· < ·) ∧ (∀ n, n ∈ r.names ↔ ∃ x ∈ all, lower x.name = n) ∧
      ∀ n ∈ r.names, ∃ g, r.get n = .ok g) ∧
    (∀ x ∈ all, (∀ a ∈ x.aliases, ∃ g, r.get a = .ok g) ∧ ∀ ext ∈ x.extensions,
      ∃ k g, r.extensions.get? (normalExtension ext) = some k ∧ r.get k = .ok g) ∧
    ∀ p : Path, (∃ g?, r.forPath p = .ok g?) ∧
      (∀ before ext name after, normalExtension p.suffix ≠ "" →
        (∀ e ∈ before, normalExtension e.1 ≠ normalExtension p.suffix) →
        normalExtension ext = normalExtension p.suffix →
        r.nameForPath? p (before ++ (ext, name) :: after) = some name) ∧
      (∀ extra, (∀ e ∈ extra, normalExtension e.1 ≠ normalExtension p.suffix) →
        r.nameForPath? p extra = r.nameForPath? p) ∧
      ∀ extra, normalExtension p.suffix = "" → r.nameForPath? p extra = none := by
  intro all r
  have hr : r = ({} : Registry).enterAll all := (enterAll_append {} builtinHistory later).symm
  rw [hr]
  refine ⟨fun n => ⟨knows_iff, knows_iff.trans exists_get_iff⟩,
    ⟨pairwise_sortStrings (nodup_grammars all), fun n => mem_names_iff, fun n hn => ?_⟩,
    fun x hx => ⟨fun a ha => ?_, fun ext hext => exists_of_extension hx hext⟩,
    fun p => ⟨exists_forPath p, fun before ext name after hne hbefore hext =>
      nameForPath?_of_extra hne hbefore hext, fun extra hextra => nameForPath?_of_forall hextra,
      fun extra hsuffix => nameForPath?_of_suffix hsuffix extra⟩⟩
  · obtain ⟨x, hx, rfl⟩ := mem_names_iff.mp hn
    exact exists_get_lower hx
  · exact exists_get_iff.mpr ⟨x, hx, Or.inr (List.mem_map_of_mem ha)⟩

/-- A grammar that takes over an alias and an extension of Lua, and a path with two entries for its
extension. -/
theorem lookup_enterAll_config :
    let config : Registration :=
      { name := "Config", grammar := BaseGrammar.plain.grammar, aliases := ["LuaU"], extensions := ["lua"] }
    let r := builtin.enterAll [config]
    (config ∈ builtinHistory ++ [config] ∧ ∃ g, r.get "LuaU" = .ok g) ∧
    ("config" ∈ r.names ∧ ∃ g, r.get "config" = .ok g) ∧
    (∃ k g, r.extensions.get? ".lua" = some k ∧ r.get k = .ok g) ∧
    r.nameForPath? ⟨.relative, ["a.LUA"]⟩ [("luau", "json"), (".lua", "mine"), ("Lua", "json")] =
      some "mine" ∧
    r.nameForPath? ⟨.relative, ["a.json"]⟩ [("", "lua")] =
      r.nameForPath? ⟨.relative, ["a.json"]⟩ ∧
    r.nameForPath? ⟨.relative, ["Makefile"]⟩ [("", "lua")] = none := by
  intro config r
  obtain ⟨-, ⟨-, hmem, hnames⟩, hall, hpaths⟩ := lookup_enterAll [config]
  have hconfig : config ∈ builtinHistory ++ [config] := by simp
  have hname : "config" ∈ r.names := (hmem "config").mpr ⟨config, hconfig, by decide⟩
  obtain ⟨haliases, hextensions⟩ := hall config hconfig
  obtain ⟨-, hextra, -⟩ := hpaths ⟨.relative, ["a.LUA"]⟩
  obtain ⟨-, -, hother, -⟩ := hpaths ⟨.relative, ["a.json"]⟩
  obtain ⟨-, -, -, hbare⟩ := hpaths ⟨.relative, ["Makefile"]⟩
  have hlua : normalExtension "lua" = ".lua" := by rw [normalExtension_eq]; decide
  refine ⟨⟨hconfig, haliases "LuaU" (by decide)⟩, ⟨hname, hnames "config" hname⟩,
    hlua ▸ hextensions "lua" (by decide), hextra [("luau", "json")] ".lua" "mine" [("Lua", "json")] ?_ ?_ ?_,
    hother _ ?_, hbare _ ?_⟩
  all_goals simp only [normalExtension_eq]; decide

/-- An entry for no extension is not asked for a path without one. -/
theorem name_of_bare_path :
    let bare : Path := ⟨.relative, ["Makefile"]⟩
    [("", "lua")].find? (fun e => normalExtension e.1 = normalExtension bare.suffix) = some ("", "lua") ∧
      builtin.nameForPath? bare [("", "lua")] ≠ some "lua" := by
  intro bare
  constructor
  · simp only [normalExtension_eq]
    decide
  · rw [nameForPath?_of_suffix (by rw [normalExtension_eq]; decide)]
    simp

end Registry

end Highlight
