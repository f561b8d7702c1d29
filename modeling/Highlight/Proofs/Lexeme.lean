import Highlight.Proofs.Pattern.Letters
import Highlight.Proofs.Selection

/-!
# The texts that rules select

What a rule with a regular pattern selects belongs to the language of its pattern, or of its first
group if it has groups (`Rule.exists_lexeme_of_select`).  So it can be computed from a rule which
characters its tokens may start with and which they may hold (`Rule.canStart`, `Rule.canHold`).

Some rules select what comes before a context: their group is the head of the pattern
(`Rule.Heads`).  Such a rule selects a text of the group where one of the context comes next
(`Heads.of_select`), and wherever the two stand one after the other it selects something
(`Heads.not_matches`).
-/

namespace Highlight

/-- What comes next at a place inside a text is the text from there on. -/
theorem Progress.Within.rest_eq {text : List Char} {s : Progress} (h : s.Within text) :
    s.rest = text.drop s.offset := by
  rw [h.offset, ← h.split, ← List.length_reverse, List.drop_left]

/-- A text that comes next, as a span. -/
theorem Span.of_eq_of_drop {text w rest : List Char} {start stop : Nat}
    (h : text.drop start = w ++ rest) (hstop : stop = start + w.length) :
    Span.of ⟨start, stop⟩ text = w := by
  rw [Span.of, hstop, Nat.add_sub_cancel_left, h, List.take_left]

namespace Rule

/-! ## The languages of tokens -/

/-- The patterns of the tokens of a rule. -/
def lexemes (r : Rule) : List Pattern :=
  if r.pattern.captures then (r.pattern.bodies.filter (·.1 == 1)).map (·.2) else [r.pattern]

/-- **What a rule with a regular pattern selects belongs to one of the languages of its tokens.** -/
theorem exists_lexeme_of_select {r : Rule} {text : List Char} {span : Span}
    (hregular : r.pattern.isRegular = true) (h : r.select text = some span) :
    ∃ p ∈ r.lexemes, p.isRegular = true ∧ p.Matches (span.of text) := by
  by_cases hcaptures : r.pattern.captures = true
  · obtain ⟨start, final, hle, hreach, hspan⟩ := reaches_of_select h
    rw [if_pos hcaptures] at hspan
    obtain ⟨g, hg, rfl⟩ := hspan
    rcases hreach.captured (Progress.within_place hle) _ hg with
      hg | ⟨q, a, b, hq, ha, hway, hstart, hstop⟩
    · exact absurd hg List.not_mem_nil
    · have hqregular := isRegular_of_mem_bodies hregular hq
      obtain ⟨w, hw, hrest, hoffset⟩ := hway.spells hqregular
      refine ⟨q, ?_, hqregular, ?_⟩
      · rw [lexemes, if_pos hcaptures]
        have hfirst : (1, q) ∈ r.pattern.bodies.filter (·.1 == 1) := List.mem_filter.mpr ⟨hq, rfl⟩
        exact List.mem_map.mpr ⟨_, hfirst, rfl⟩
      · rw [ha.rest_eq, ← hstart] at hrest
        rw [Span.of_eq_of_drop hrest (by rw [hstop, hoffset, hstart])]
        exact hw
  · have hnone : r.pattern.captures = false := Bool.eq_false_iff.mpr hcaptures
    refine ⟨r.pattern, ?_, hregular, matches_of_select hregular hnone h⟩
    rw [lexemes, if_neg hcaptures]
    exact List.mem_singleton.mpr rfl

/-- Whether a token of the rule may start with a character. -/
def canStart (r : Rule) (c : Char) : Bool := r.lexemes.any (·.canStart c)

/-- Whether a token of the rule may hold a character. -/
def canHold (r : Rule) (c : Char) : Bool := r.lexemes.any (·.canHold c)

section Letters

variable {r : Rule} {text : List Char} {span : Span} {c : Char}

theorem canStart_of_select (hregular : r.pattern.isRegular = true) (h : r.select text = some span)
    (hc : (span.of text).head? = some c) : r.canStart c = true := by
  obtain ⟨p, hp, hpregular, hmatches⟩ := exists_lexeme_of_select hregular h
  obtain ⟨w, hw⟩ := List.head?_eq_some_iff.mp hc
  exact List.any_eq_true.mpr ⟨p, hp, Pattern.canStart_of_matches hpregular (hw ▸ hmatches)⟩

theorem canHold_of_select (hregular : r.pattern.isRegular = true) (h : r.select text = some span)
    (hc : c ∈ span.of text) : r.canHold c = true := by
  obtain ⟨p, hp, _, hmatches⟩ := exists_lexeme_of_select hregular h
  exact List.any_eq_true.mpr ⟨p, hp, Pattern.canHold_of_matches hmatches hc⟩

end Letters

end Rule

/-! ## Tokens before a context -/

/-- A way through a regular pattern without groups leaves the groups as they are. -/
theorem Pattern.Reaches.groups_eq {p : Pattern} {s t : Progress} (h : p.Reaches s t)
    (hp : p.isRegular = true) (hc : p.captures = false) : t.groups = s.groups := by
  induction h with
  | empty | done | one => rfl
  | seq _ _ ih₁ ih₂ =>
    rw [isRegular, Bool.and_eq_true] at hp
    rw [captures, Bool.or_eq_false_iff] at hc
    exact (ih₂ hp.2 hc.2).trans (ih₁ hp.1 hc.1)
  | left _ ih =>
    rw [isRegular, Bool.and_eq_true] at hp
    rw [captures, Bool.or_eq_false_iff] at hc
    exact ih hp.1 hc.1
  | right _ ih =>
    rw [isRegular, Bool.and_eq_true] at hp
    rw [captures, Bool.or_eq_false_iff] at hc
    exact ih hp.2 hc.2
  | copy _ _ _ ih₁ ih₂ => exact (ih₂ hp hc).trans (ih₁ hp hc)
  | group => exact absurd hc (by simp [captures])
  | backref | atomic | ifSet | ifUnset | anchor | ahead | notAhead | behind | notBehind =>
    exact absurd hp (by simp [isRegular])

namespace Rule

/-- A rule that is searched for, whose only group is the head of its pattern and has a context after
it. -/
structure Heads (r : Rule) (body context : Pattern) : Prop where
  free : r.anchored = false
  pattern : r.pattern = .seq (.group 1 body) context
  body_regular : body.isRegular = true
  body_captures : body.captures = false
  context_regular : context.isRegular = true
  context_captures : context.captures = false

namespace Heads

variable {r : Rule} {body context : Pattern} {text : List Char}

theorem regular (hr : r.Heads body context) : r.pattern.isRegular = true := by
  rw [hr.pattern, Pattern.isRegular, Bool.and_eq_true]
  exact ⟨hr.body_regular, hr.context_regular⟩

/-- A way through the pattern goes over a text of the group, which it keeps, and one of the context.
-/
theorem reaches {start : Nat} {final : Progress} (hr : r.Heads body context)
    (h : r.pattern.Reaches (.place text start) final) : ∃ w v, body.Matches w ∧ context.Matches v ∧
      text.drop start = w ++ (v ++ final.rest) ∧
      ∃ g, final.groups = [(1, g)] ∧ g.start = start ∧ g.stop = start + w.length := by
  rw [hr.pattern] at h
  cases h with
  | seq first second =>
    cases first with
    | @group i p s t way =>
      obtain ⟨w, hw, hrest, hoffset⟩ := way.spells hr.body_regular
      obtain ⟨v, hv, hmore, _⟩ := second.spells hr.context_regular
      have hgroups := second.groups_eq hr.context_regular hr.context_captures
      have hnone : t.groups = [] := way.groups_eq hr.body_regular hr.body_captures
      refine ⟨w, v, hw, hv, ?_, ⟨start, t.offset, text.drop start⟩, ?_, rfl, hoffset⟩
      · rw [← hmore]
        exact hrest
      · rw [hgroups, Progress.record, hnone]
        rfl

/-- **Such a rule selects a text of its group where one of the context comes next.** -/
theorem of_select {span : Span} (hr : r.Heads body context) (h : r.select text = some span) :
    body.Matches (span.of text) ∧
      ∃ v rest, context.Matches v ∧ text.drop span.stop = v ++ rest := by
  obtain ⟨start, final, _, hreach, hspan⟩ := reaches_of_select h
  obtain ⟨w, v, hw, hv, hdrop, g, hgroups, hstart, hstop⟩ := hr.reaches hreach
  have hcaptures : r.pattern.captures = true := by
    rw [hr.pattern]
    rfl
  rw [if_pos hcaptures, hgroups] at hspan
  obtain ⟨g', hg', rfl⟩ := hspan
  obtain rfl : g' = g := by simpa using hg'
  rw [Span.of_eq_of_drop (hstart ▸ hdrop) (by rw [hstop, hstart])]
  refine ⟨hw, v, final.rest, hv, ?_⟩
  rw [hstop, ← List.drop_drop, hdrop, List.drop_left]

/-- Where such a rule selects nothing, no text of its group stands before one of the context. -/
theorem not_matches {before w v after : List Char} (hr : r.Heads body context)
    (h : r.select (before ++ (w ++ v) ++ after) = none) (hw : body.Matches w) :
    ¬ context.Matches v := by
  intro hv
  have hmatches : r.pattern.Matches (w ++ v) := by
    rw [hr.pattern]
    exact ⟨w, v, rfl, hw, hv⟩
  have hcaptures : r.pattern.captures = true := by
    rw [hr.pattern]
    rfl
  rw [select, hr.free, if_neg Bool.false_ne_true, hcaptures] at h
  cases hsearch : r.pattern.search (before ++ (w ++ v) ++ after) with
  | none => exact Pattern.search_ne_none hr.regular hmatches before after hsearch
  | some found =>
    -- the group takes part in every match
    obtain ⟨_, hrun, _⟩ := Pattern.searchFrom_some rfl (Nat.zero_le _) hsearch
    obtain ⟨t, hreach, ht⟩ := Pattern.run_reaches _ hrun
    obtain rfl := Option.some.inj ht
    obtain ⟨_, _, _, _, _, g, hgroups, _⟩ := hr.reaches hreach
    rw [hsearch] at h
    simp [Progress.group?, hgroups] at h

end Heads

end Rule

end Highlight
