import Highlight.Proofs.Pattern.Language
import Highlight.Rule

/-!
# What rules select

`Rule.select` looks at one text, on its own.  Whatever it selects lies inside that text
(`select_stop_le`), and the empty text gives it nothing to select (`select_nil`).

A rule may still select an empty span, since its first group may hold the empty text.  A rule with a
regular pattern selects none if no group inside matches the empty text (`neverEmpty_of_bodies`); the
two rules that end every table select none.

A rule is plain if it is searched for and its pattern is regular and has no groups.  What it selects
in a text is the leftmost stretch that belongs to its language, so that a plain rule that finds
nothing in a text finds nothing in any part of it (`Plain.select_part`), and nothing before what it
selects (`Plain.select_before`).
-/

namespace Highlight

open Text

/-- A stretch of the text from a place on, seen in the whole text. -/
theorem Span.of_shift (s : Span) (source : List Char) (n : Nat) :
    Span.of ⟨s.start + n, s.stop + n⟩ source = s.of (source.drop n) := by
  have hlen : s.stop + n - (s.start + n) = s.stop - s.start := by omega
  simp only [Span.of, hlen, List.drop_drop, Nat.add_comm n]

/-! ## Searching -/

namespace Pattern

theorem take_succ_of_drop_eq {text rest : List Char} {c : Char} {n : Nat}
    (h : text.drop n = c :: rest) : (text.take (n + 1)).reverse = c :: (text.take n).reverse := by
  have hget : text[n]? = some c := by
    rw [← List.head?_drop, h, List.head?_cons]
  rw [List.take_add_one, hget]
  simp

theorem drop_succ_of_drop_eq {text rest : List Char} {c : Char} {n : Nat}
    (h : text.drop n = c :: rest) : text.drop (n + 1) = rest := by
  rw [← List.drop_drop, h, List.drop_one, List.tail_cons]

/-- A search that finds nothing has tried every place. -/
theorem searchFrom_none {p : Pattern} {text : List Char} : ∀ {rest : List Char} {n : Nat},
    text.drop n = rest → n ≤ text.length → p.searchFrom (text.take n).reverse rest n = none →
    ∀ m, n ≤ m → m ≤ text.length → p.run (.place text m) some = none
  | [], n, hrest, hn, h, m, hnm, hm => by
    have hend : text.length ≤ n := List.drop_eq_nil_iff.mp hrest
    obtain rfl : m = n := by omega
    rw [searchFrom, Option.map_eq_none_iff] at h
    rw [Progress.place, hrest]
    exact h
  | c :: rest, n, hrest, hn, h, m, hnm, hm => by
    rw [searchFrom] at h
    split at h
    · exact absurd h (by simp)
    · next hrun =>
      rcases Nat.eq_or_lt_of_le hnm with rfl | hlt
      · rw [Progress.place, hrest]
        exact hrun
      · rw [← take_succ_of_drop_eq hrest] at h
        exact searchFrom_none (drop_succ_of_drop_eq hrest) (by omega) h m hlt hm

/-- A search finds the first place at which the pattern matches. -/
theorem searchFrom_some {p : Pattern} {text : List Char} {found : Found} :
    ∀ {rest : List Char} {n : Nat}, text.drop n = rest → n ≤ text.length →
    p.searchFrom (text.take n).reverse rest n = some found →
    found.start ≤ text.length ∧ p.run (.place text found.start) some = some found.final ∧
      ∀ m, n ≤ m → m < found.start → p.run (.place text m) some = none
  | [], n, hrest, hn, h => by
    rw [searchFrom] at h
    obtain ⟨t, ht, rfl⟩ := Option.map_eq_some_iff.mp h
    refine ⟨hn, ?_, fun m hnm hm => absurd hm (Nat.not_lt.mpr hnm)⟩
    rw [Progress.place, hrest]
    exact ht
  | c :: rest, n, hrest, hn, h => by
    rw [searchFrom] at h
    split at h
    · next t ht =>
      obtain rfl := Option.some.inj h
      refine ⟨hn, ?_, fun m hnm hm => absurd hm (Nat.not_lt.mpr hnm)⟩
      rw [Progress.place, hrest]
      exact ht
    · next hrun =>
      have hlt : n < text.length := by
        refine Nat.lt_of_not_le fun hle => ?_
        rw [List.drop_eq_nil_of_le hle] at hrest
        exact absurd hrest (by simp)
      rw [← take_succ_of_drop_eq hrest] at h
      obtain ⟨hle, hfound, hbefore⟩ := searchFrom_some (drop_succ_of_drop_eq hrest) hlt h
      refine ⟨hle, hfound, fun m hnm hm => ?_⟩
      rcases Nat.eq_or_lt_of_le hnm with rfl | hnm
      · rw [Progress.place, hrest]
        exact hrun
      · exact hbefore m hnm hm

/-- Where a text of the language stands, a regular pattern matches. -/
theorem run_place_isSome {p : Pattern} {w : List Char} (hp : p.isRegular = true) (hw : p.Matches w)
    (before after : List Char) :
    (p.run (.place (before ++ w ++ after) before.length) some).isSome = true := by
  have hnext : (Progress.place (before ++ w ++ after) before.length).rest = w ++ after := by
    rw [Progress.place, List.append_assoc, List.drop_left]
  exact run_isSome p hp hw hnext fun _ _ => rfl

/-- A search for a regular pattern finds something where a text of the language stands. -/
theorem search_ne_none {p : Pattern} {w : List Char} (hp : p.isRegular = true) (hw : p.Matches w)
    (before after : List Char) : p.search (before ++ w ++ after) ≠ none := by
  intro h
  have hnone := searchFrom_none rfl (Nat.zero_le _) h before.length (Nat.zero_le _)
    (by rw [List.append_assoc, List.length_append]; exact Nat.le_add_right _ _)
  have hsome := run_place_isSome hp hw before after
  rw [hnone] at hsome
  exact absurd hsome (by simp)

end Pattern

/-! ## Where a selection comes from -/

namespace Rule

/-- **A selection comes from a way through the pattern**: it is what the first group holds at the
end of that way, or all that the way went through. -/
theorem reaches_of_select {r : Rule} {text : List Char} {span : Span}
    (h : r.select text = some span) : ∃ start final, start ≤ text.length ∧
      r.pattern.Reaches (.place text start) final ∧
      if r.pattern.captures then ∃ g, (1, g) ∈ final.groups ∧ span = ⟨g.start, g.stop⟩
      else span = ⟨start, final.offset⟩ := by
  have hfound : ∀ found : Pattern.Found,
      (if r.anchored then r.pattern.matchStart text else r.pattern.search text) = some found →
      found.start ≤ text.length ∧
        r.pattern.run (.place text found.start) some = some found.final := by
    intro found h
    split at h
    · obtain ⟨t, ht, rfl⟩ := Option.map_eq_some_iff.mp h
      exact ⟨Nat.zero_le _, ht⟩
    · obtain ⟨hle, hrun, _⟩ := Pattern.searchFrom_some rfl (Nat.zero_le _) h
      exact ⟨hle, hrun⟩
  rw [select] at h
  split at h
  · exact absurd h (by simp)
  · next found hsome =>
    obtain ⟨hle, hrun⟩ := hfound found hsome
    obtain ⟨t, hreach, ht⟩ := Pattern.run_reaches _ hrun
    obtain rfl := Option.some.inj ht
    refine ⟨found.start, _, hle, hreach, ?_⟩
    split at h
    · next hcaptures =>
      obtain ⟨g, hg, rfl⟩ := Option.map_eq_some_iff.mp h
      obtain ⟨l₁, l₂, hgroups, _⟩ := List.lookup_eq_some_iff.mp hg
      rw [if_pos hcaptures, hgroups]
      exact ⟨g, by simp, rfl⟩
    · next hcaptures =>
      rw [if_neg hcaptures]
      exact (Option.some.inj h).symm

/-- **A selection lies inside the text.** -/
theorem select_stop_le {r : Rule} {text : List Char} {span : Span} (h : r.select text = some span) :
    span.stop ≤ text.length := by
  obtain ⟨start, final, hle, hreach, hspan⟩ := reaches_of_select h
  obtain ⟨hwithin, _⟩ := hreach.within (Progress.within_place hle)
  split at hspan
  · obtain ⟨g, hg, rfl⟩ := hspan
    exact (hwithin.groups _ hg).2
  · subst hspan
    exact hwithin.offset_le

/-- A selection does not end before it starts. -/
theorem select_start_le_stop {r : Rule} {text : List Char} {span : Span}
    (h : r.select text = some span) : span.start ≤ span.stop := by
  obtain ⟨start, final, hle, hreach, hspan⟩ := reaches_of_select h
  obtain ⟨hwithin, hforward⟩ := hreach.within (Progress.within_place hle)
  split at hspan
  · obtain ⟨g, hg, rfl⟩ := hspan
    exact (hwithin.groups _ hg).1
  · subst hspan
    exact hforward

/-- Nothing is selected in the empty text. -/
theorem select_nil (r : Rule) : r.select [] = none := by
  have hrun : r.pattern.run (.start []) some = none := by
    have hne := r.nonempty
    rw [Pattern.matchesEmpty, Pattern.matchStart, Option.isSome_map] at hne
    exact Option.not_isSome_iff_eq_none.mp (by rw [hne]; exact Bool.false_ne_true)
  have hstart : r.pattern.matchStart [] = none := by
    rw [Pattern.matchStart, hrun, Option.map_none]
  have hsearch : r.pattern.search [] = none := by
    rw [Pattern.search, Pattern.searchFrom]
    exact Option.map_eq_none_iff.mpr hrun
  rw [select, hstart, hsearch, ite_self]

/-- A search from a cursor on is a search in the text from there. -/
theorem find_eq (r : Rule) (source : List Char) (cursor : Nat) :
    r.find source cursor =
      (r.select (source.drop cursor)).map fun s => ⟨s.start + cursor, s.stop + cursor⟩ := rfl

/-! ## Rules that select no empty span -/

/-- No selection of the rule is empty, in any text. -/
def NeverEmpty (r : Rule) : Prop :=
  ∀ text span, r.select text = some span → span.start < span.stop

theorem isRegular_of_mem_bodies : ∀ {p : Pattern} {b : Nat × Pattern}, p.isRegular = true →
    b ∈ p.bodies → b.2.isRegular = true
  | .seq p q, b, hp, hb | .alt p q, b, hp, hb => by
    rw [Pattern.isRegular, Bool.and_eq_true] at hp
    rcases List.mem_append.mp hb with hb | hb
    · exact isRegular_of_mem_bodies hp.1 hb
    · exact isRegular_of_mem_bodies hp.2 hb
  | .times _ _ _ p, b, hp, hb => isRegular_of_mem_bodies (p := p) hp hb
  | .group i p, b, hp, hb => by
    rcases List.mem_cons.mp hb with rfl | hb
    · exact hp
    · exact isRegular_of_mem_bodies (p := p) hp hb
  | .empty, _, _, hb | .one _, _, _, hb => absurd hb List.not_mem_nil
  | .backref _ _, _, hp, _ | .atomic _, _, hp, _ | .ifGroup _ _ _, _, hp, _ | .anchor _, _, hp, _
  | .ahead _ _, _, hp, _ | .behind _ _ _, _, hp, _ =>
    absurd hp (by simp [Pattern.isRegular])

/-- **A rule with a regular pattern selects no empty span, if no group of it matches the empty
text.** -/
theorem neverEmpty_of_bodies {r : Rule} (hregular : r.pattern.isRegular = true)
    (hbodies : ∀ b ∈ r.pattern.bodies, b.2.matchesEmpty = false) : r.NeverEmpty := by
  intro text span h
  obtain ⟨start, final, hle, hreach, hspan⟩ := reaches_of_select h
  split at hspan
  · obtain ⟨g, hg, rfl⟩ := hspan
    rcases hreach.captured (Progress.within_place hle) _ hg with
      hg | ⟨q, a, b, hq, _, hway, hstart, hstop⟩
    · exact absurd hg List.not_mem_nil
    · have hlt : a.offset < b.offset :=
        hway.lt (isRegular_of_mem_bodies hregular hq) (hbodies _ hq)
      show g.start < g.stop
      rw [hstart, hstop]
      exact hlt
  · subst hspan
    exact hreach.lt hregular r.nonempty

theorem bodies_eq_nil : ∀ {p : Pattern}, p.captures = false → p.bodies = []
  | .seq p q, h | .alt p q, h | .ifGroup _ p q, h => by
    rw [Pattern.captures, Bool.or_eq_false_iff] at h
    rw [Pattern.bodies, bodies_eq_nil h.1, bodies_eq_nil h.2, List.append_nil]
  | .times _ _ _ p, h | .atomic p, h | .ahead _ p, h | .behind _ _ p, h =>
    bodies_eq_nil (p := p) h
  | .empty, _ | .one _, _ | .backref _ _, _ | .anchor _, _ => rfl

/-- A rule with a regular pattern without groups selects no empty span. -/
theorem neverEmpty_of_regular {r : Rule} (hregular : r.pattern.isRegular = true)
    (hcaptures : r.pattern.captures = false) : r.NeverEmpty := by
  refine neverEmpty_of_bodies hregular fun b hb => ?_
  rw [bodies_eq_nil hcaptures] at hb
  exact absurd hb List.not_mem_nil

/-- It selects a text of its language. -/
theorem matches_of_select {r : Rule} {text : List Char} {span : Span}
    (hregular : r.pattern.isRegular = true) (hcaptures : r.pattern.captures = false)
    (h : r.select text = some span) : r.pattern.Matches (span.of text) := by
  obtain ⟨start, final, _, hreach, hspan⟩ := reaches_of_select h
  rw [hcaptures, if_neg Bool.false_ne_true] at hspan
  subst hspan
  obtain ⟨w, hw, hrest, hoffset⟩ := hreach.spells hregular
  have hlength : final.offset - start = w.length := by
    rw [hoffset]
    exact Nat.add_sub_cancel_left _ _
  have hdrop : text.drop start = w ++ final.rest := hrest
  rw [Span.of, hlength, hdrop, List.take_left]
  exact hw

theorem blanks_neverEmpty : blanks.NeverEmpty := neverEmpty_of_regular rfl rfl

theorem anyChar_neverEmpty : anyChar.NeverEmpty := neverEmpty_of_regular rfl rfl

/-! ## Plain rules -/

/-- A rule that is searched for, without groups and without conditions on the text around a match.
-/
structure Plain (r : Rule) : Prop where
  free : r.anchored = false
  regular : r.pattern.isRegular = true
  captures : r.pattern.captures = false

theorem Plain.neverEmpty {r : Rule} (hr : r.Plain) : r.NeverEmpty :=
  neverEmpty_of_regular hr.regular hr.captures

theorem Plain.select_eq {r : Rule} (hr : r.Plain) (text : List Char) : r.select text =
    (r.pattern.search text).map fun found => ⟨found.start, found.final.offset⟩ := by
  rw [select, hr.free, if_neg Bool.false_ne_true, hr.captures]
  cases r.pattern.search text <;> rfl

/-- A text is what comes before a selection, the selection, and what comes after it. -/
theorem split_of_select {r : Rule} {text : List Char} {span : Span}
    (h : r.select text = some span) :
    text.take span.start ++ span.of text ++ text.drop span.stop = text := by
  rw [Span.of, ← List.take_add, Nat.add_sub_cancel' (select_start_le_stop h), List.take_append_drop]

/-- What a plain rule selects belongs to its language. -/
theorem Plain.matches_of_select {r : Rule} {text : List Char} {span : Span} (hr : r.Plain)
    (h : r.select text = some span) : ∃ w, r.pattern.Matches w ∧
      ∃ after, text = text.take span.start ++ w ++ after :=
  ⟨span.of text, Rule.matches_of_select hr.regular hr.captures h, text.drop span.stop,
    (split_of_select h).symm⟩

/-- A plain rule that selects nothing has no text of its language in the text. -/
theorem Plain.not_matches {r : Rule} {before w after : List Char} (hr : r.Plain)
    (h : r.select (before ++ w ++ after) = none) : ¬ r.pattern.Matches w := by
  intro hw
  rw [hr.select_eq, Option.map_eq_none_iff] at h
  exact Pattern.search_ne_none hr.regular hw before after h

/-- A plain rule selects the leftmost text of its language. -/
theorem Plain.start_le {r : Rule} {before w after : List Char} {span : Span} (hr : r.Plain)
    (h : r.select (before ++ w ++ after) = some span) (hw : r.pattern.Matches w) :
    span.start ≤ before.length := by
  rw [hr.select_eq] at h
  obtain ⟨found, hsearch, rfl⟩ := Option.map_eq_some_iff.mp h
  obtain ⟨_, _, hbefore⟩ := Pattern.searchFrom_some rfl (Nat.zero_le _) hsearch
  refine Nat.le_of_not_lt fun hlt => ?_
  have hnone := hbefore before.length (Nat.zero_le _) hlt
  have hsome := Pattern.run_place_isSome hr.regular hw before after
  rw [hnone] at hsome
  exact absurd hsome (by simp)

/-- **A plain rule that finds nothing in a text finds nothing in any part of it.** -/
theorem Plain.select_part {r : Rule} {before part after : List Char} (hr : r.Plain)
    (h : r.select (before ++ part ++ after) = none) : r.select part = none := by
  cases hpart : r.select part with
  | none => rfl
  | some span =>
    -- what the rule selects in the part stands in the whole text as well
    obtain ⟨w, hw, rest, hsplit⟩ := hr.matches_of_select hpart
    rw [hsplit, ← List.append_assoc, ← List.append_assoc, List.append_assoc _ rest] at h
    exact absurd hw (hr.not_matches h)

theorem Plain.select_of_isInfix {r : Rule} {part text : List Char} (hr : r.Plain)
    (h : r.select text = none) (hpart : part <:+: text) : r.select part = none := by
  obtain ⟨before, after, rfl⟩ := hpart
  exact hr.select_part h

/-- **Nothing of a plain rule lies before what it selects.** -/
theorem Plain.select_before {r : Rule} {text : List Char} {span : Span} (hr : r.Plain)
    (h : r.select text = some span) : r.select (text.take span.start) = none := by
  cases hbefore : r.select (text.take span.start) with
  | none => rfl
  | some span' =>
    exfalso
    -- a text of the language to the left of the leftmost one
    obtain ⟨w, hw, rest, hsplit⟩ := hr.matches_of_select hbefore
    have hpos : 0 < w.length := List.length_pos_iff.mpr (hw.ne_nil hr.regular r.nonempty)
    have hlength := congrArg List.length hsplit
    rw [List.length_append, List.length_append, List.length_take] at hlength
    have hwhole : r.select ((text.take span.start).take span'.start ++ w ++
        (rest ++ text.drop span.start)) = some span := by
      rw [← List.append_assoc, ← hsplit, List.take_append_drop]
      exact h
    have := hr.start_le hwhole hw
    omega

/-! ## The rules that end every table -/

theorem select_eq_of_anchored {r : Rule} (hr : r.anchored = true) (hc : r.pattern.captures = false)
    (text : List Char) :
    r.select text = (r.pattern.run (.start text) some).map fun t => ⟨0, t.offset⟩ := by
  rw [select, if_pos hr, hc, Pattern.matchStart]
  cases r.pattern.run (.start text) some <;> rfl

/-- Greedy copies of a class take all the characters of the class that come next. -/
theorem extend_one {chars : CharClass} : ∀ {n : Nat} {last : Option Nat} {s : Progress},
    (s.rest.takeWhile chars.contains).length < n → last ≠ some s.offset →
    extend (fun t l => (Pattern.one chars).run t l) true n last s some =
      some (s.forward (s.rest.takeWhile chars.contains).length)
  | n + 1, last, s, hn, hlast => by
    have hzero : s = s.forward 0 := by simp [Progress.forward]
    rw [extend, if_neg hlast, if_pos rfl, Pattern.run]
    cases hrest : s.rest with
    | nil => exact congrArg some hzero
    | cons c rest =>
      rw [hrest, List.takeWhile_cons] at hn
      by_cases hc : chars.contains c = true
      · rw [if_pos hc, List.length_cons] at hn
        have hmoved : some s.offset ≠ some (s.past c rest).offset := by
          simp [Progress.past]
        have hshorter : ((s.past c rest).rest.takeWhile chars.contains).length < n :=
          Nat.lt_of_succ_lt_succ hn
        have ih := extend_one hshorter hmoved
        simp only [hc, if_true, ih, List.takeWhile_cons, List.length_cons]
        simp [Progress.forward, Progress.past, hrest, Nat.add_assoc, Nat.add_comm 1]
      · simp only [hc, List.takeWhile_cons]
        exact congrArg some hzero

/-- One or more characters of a class, as many as possible. -/
theorem run_many (chars : CharClass) (s : Progress) : (Pattern.many 1 chars).run s some =
    if s.rest.takeWhile chars.contains = [] then none
    else some (s.forward (s.rest.takeWhile chars.contains).length) := by
  rw [Pattern.many, Pattern.run, iterate, Pattern.run]
  cases hrest : s.rest with
  | nil => rfl
  | cons c rest =>
    by_cases hc : chars.contains c = true
    · have hbound : (rest.takeWhile chars.contains).length < furtherCopies 1 none (s.past c rest) :=
        Nat.lt_succ_of_le (List.takeWhile_prefix _).length_le
      have hstart : (none : Option Nat) ≠ some (s.past c rest).offset := by simp
      have hmore := extend_one (s := s.past c rest) hbound hstart
      simp only [hc, if_true, iterate, hmore, List.takeWhile_cons]
      simp [Progress.forward, Progress.past, hrest, Nat.add_assoc, Nat.add_comm 1]
    · simp [hc]

/-- **The rule for white space selects all the white space that a text starts with, if there is
any.** -/
theorem select_blanks (text : List Char) : blanks.select text =
    if text.takeWhile isAsciiBlank = [] then none
    else some ⟨0, (text.takeWhile isAsciiBlank).length⟩ := by
  have hclass : (CharClass.ofCategory .space false).contains = isAsciiBlank :=
    funext (CharClass.contains_ofCategory .space)
  have hselect := select_eq_of_anchored (r := blanks) rfl rfl text
  rw [show blanks.pattern = .many 1 (.ofCategory .space false) from rfl, run_many, hclass] at hselect
  rw [hselect]
  show (if text.takeWhile isAsciiBlank = [] then _ else _ : Option Progress).map _ = _
  split
  · rfl
  · simp [Progress.forward, Progress.start]

/-- The rule for any character selects the first one. -/
theorem select_anyChar (c : Char) (rest : List Char) : anyChar.select (c :: rest) = some ⟨0, 1⟩ := rfl

end Rule

end Highlight
