import Highlight.Proofs.Split.Coverage
import Mathlib.Data.List.Chain

/-!
# Where the tokens of a split text come from

Every token of a split text is the first selection of a part of the text (`exists_firstIn_of_mem`).
The first token is one at the start of its part, and that part starts where the text does
(`exists_firstIn_of_head?`); the last token is one at the end of its part, and that part ends where
the text does (`exists_firstIn_of_getLast?`).

Neighbours in a split text come together in two ways: the last token of the text before a selection
and the token of the selection, and that token and the first one after it.  A relation that holds in
both cases holds all along (`isChain_splitRec`).
-/

namespace Highlight

open Text

/-! ## First selections -/

/-- A token is the first selection of a text by a complete table. -/
def Token.FirstIn (rules : List Rule) (text : List Char) (span : Span) (t : Token) : Prop :=
  ∃ r, firstSelection (Rule.complete rules) text = some ⟨r, span⟩ ∧ span.start < span.stop ∧
    t = .single (span.of text) r.tag

namespace Token.FirstIn

variable {rules before : List Rule} {text : List Char} {span : Span} {t : Token}

/-- A token has the text and the tag of the rule that selected it. -/
theorem exists_rule (h : t.FirstIn rules text span) : ∃ r ∈ Rule.complete rules,
    r.select text = some span ∧ t.content = span.of text ∧ t.tags = [r.tag] := by
  obtain ⟨r, hfirst, _, rfl⟩ := h
  obtain ⟨hr, hselect⟩ := firstSelection_spec hfirst
  exact ⟨r, hr, hselect, rfl, rfl⟩

/-- A token that is of none of the rules at the head of a table was selected where these rules select
nothing. -/
theorem select_eq_none (h : t.FirstIn (before ++ rules) text span)
    (htags : ∀ r ∈ before, t.tags ≠ [r.tag]) : ∀ r ∈ before, r.select text = none := by
  obtain ⟨r, hfirst, _, rfl⟩ := h
  rw [Rule.complete, List.append_assoc, firstSelection, List.findSome?_append,
    Option.or_eq_some_iff] at hfirst
  rcases hfirst with hfirst | ⟨hnone, _⟩
  · have hbefore : firstSelection before text = some ⟨r, span⟩ := hfirst
    exact absurd rfl (htags r (firstSelection_spec hbefore).1)
  · intro r' hr'
    simpa using List.findSome?_eq_none_iff.mp hnone r' hr'

/-- **Only the last of the two rules that end every table gives the tag `ind`**, if no rule of the
table does: to a character that is no white space and no text of a plain rule of the table. -/
theorem exists_char (h : t.FirstIn rules text span) (htag : t.tags = ["ind"])
    (hrules : ∀ r ∈ rules, r.tag ≠ "ind") : ∃ c, t.content = [c] ∧ isAsciiBlank c = false ∧
      ∀ r ∈ rules, r.Plain → ¬ r.pattern.Matches [c] := by
  have hnone : ∀ r ∈ rules, r.select text = none := by
    have hall : t.FirstIn (rules ++ []) text span := by rwa [List.append_nil]
    refine hall.select_eq_none fun r hr => ?_
    simpa [htag] using (hrules r hr).symm
  obtain ⟨r, hfirst, _, rfl⟩ := h
  rw [Rule.complete, firstSelection, List.findSome?_append,
    List.findSome?_eq_none_iff.mpr fun r hr => by rw [hnone r hr, Option.map_none],
    Option.none_or] at hfirst
  cases text with
  | nil => exact absurd hfirst (by simp [Rule.select_nil])
  | cons c rest =>
    rw [List.findSome?_cons, Rule.select_blanks] at hfirst
    by_cases hc : isAsciiBlank c = true
    · -- white space has its own tag
      rw [List.takeWhile_cons_of_pos hc, if_neg (List.cons_ne_nil _ _), Option.map_some] at hfirst
      obtain ⟨rfl, rfl⟩ := Hit.mk.inj (Option.some.inj hfirst)
      exact absurd htag (by simp [single, Rule.blanks])
    · rw [List.takeWhile_cons_of_neg hc, if_pos rfl] at hfirst
      obtain ⟨rfl, rfl⟩ := Hit.mk.inj (Option.some.inj hfirst)
      refine ⟨c, rfl, by simpa using hc, fun r hr hplain => ?_⟩
      have hnothing : r.select ([] ++ [c] ++ rest) = none := hnone r hr
      exact hplain.not_matches hnothing

end Token.FirstIn

/-! ## Provenance -/

section Provenance

variable {rules : List Rule} {text : List Char} {ts : List Token}

/-- **Every token of a split text is the first selection of a part of it.** -/
theorem exists_firstIn_of_mem (h : splitRec rules text = .ok ts) :
    ∀ t ∈ ts, ∃ part span, part <:+: text ∧ t.FirstIn rules part span := by
  refine splitRec_induction
    (motive := fun text ts => ∀ t ∈ ts, ∃ part span, part <:+: text ∧ t.FirstIn rules part span)
    ?_ ?_ h
  · intro t ht
    exact absurd ht List.not_mem_nil
  · intro text hit before after hfirst hlt _ _ ihbefore ihafter t ht
    rcases List.mem_append.mp ht with ht | ht
    · obtain ⟨part, span, hpart, hin⟩ := ihbefore t ht
      exact ⟨part, span, hpart.trans (List.take_prefix _ _).isInfix, hin⟩
    · rcases List.mem_cons.mp ht with rfl | ht
      · exact ⟨text, hit.span, List.infix_refl text, hit.rule, hfirst, hlt, rfl⟩
      · obtain ⟨part, span, hpart, hin⟩ := ihafter t ht
        exact ⟨part, span, hpart.trans (List.drop_suffix _ _).isInfix, hin⟩

/-- The first token starts as the text does. -/
theorem head?_of_splitRec (h : splitRec rules text = .ok ts) {t : Token} (ht : ts.head? = some t) :
    t.content.head? = text.head? := by
  obtain ⟨rest, rfl⟩ := List.head?_eq_some_iff.mp ht
  obtain ⟨hne, _⟩ := isRaw_of_splitRec h t List.mem_cons_self
  rw [← contents_splitRec h, contents_cons, List.head?_append_of_ne_nil _ hne]

/-- The first token is at the start of its part, which is where the text starts. -/
theorem exists_firstIn_of_head? (h : splitRec rules text = .ok ts) :
    ∀ t, ts.head? = some t → ∃ part stop, part <+: text ∧ t.FirstIn rules part ⟨0, stop⟩ := by
  refine splitRec_induction (motive := fun text ts => ∀ t, ts.head? = some t →
    ∃ part stop, part <+: text ∧ t.FirstIn rules part ⟨0, stop⟩) ?_ ?_ h
  · intro t ht
    exact absurd ht (by simp)
  · intro text hit before after hfirst hlt hbefore _ ihbefore _ t ht
    cases before with
    | nil =>
      -- there is nothing before the selection
      have hstart : hit.span.start = 0 := by
        have hempty : text.take hit.span.start = [] := (contents_splitRec hbefore).symm
        have hle := firstSelection_stop_le hfirst
        have hlength := congrArg List.length hempty
        rw [List.length_take, List.length_nil] at hlength
        omega
      obtain rfl : hit.token text = t := by simpa using ht
      obtain ⟨r, start, stop⟩ := hit
      obtain rfl : start = 0 := hstart
      exact ⟨text, stop, List.prefix_rfl, r, hfirst, hlt, rfl⟩
    | cons u before =>
      obtain ⟨part, stop, hpart, hin⟩ := ihbefore t (by simpa using ht)
      exact ⟨part, stop, hpart.trans (List.take_prefix _ _), hin⟩

/-- The last token is at the end of its part, which is where the text ends. -/
theorem exists_firstIn_of_getLast? (h : splitRec rules text = .ok ts) :
    ∀ t, ts.getLast? = some t → ∃ part start, part <:+ text ∧
      t.FirstIn rules part ⟨start, part.length⟩ := by
  refine splitRec_induction (motive := fun text ts => ∀ t, ts.getLast? = some t →
    ∃ part start, part <:+ text ∧ t.FirstIn rules part ⟨start, part.length⟩) ?_ ?_ h
  · intro t ht
    exact absurd ht (by simp)
  · intro text hit before after hfirst hlt _ hafter _ ihafter t ht
    cases after with
    | nil =>
      have hstop : hit.span.stop = text.length := by
        have hempty : text.drop hit.span.stop = [] := (contents_splitRec hafter).symm
        have hle := firstSelection_stop_le hfirst
        have hlength := congrArg List.length hempty
        rw [List.length_drop, List.length_nil] at hlength
        omega
      obtain rfl : hit.token text = t := by simpa using ht
      obtain ⟨r, start, stop⟩ := hit
      obtain rfl : stop = text.length := hstop
      exact ⟨text, start, List.suffix_rfl, r, hfirst, hlt, rfl⟩
    | cons u after =>
      obtain ⟨part, start, hpart, hin⟩ := ihafter t (by simpa using ht)
      exact ⟨part, start, hpart.trans (List.drop_suffix _ _), hin⟩

/-- **Neighbours are related** if the last token before a selection and the selection are, and the
selection and the first token after it. -/
theorem isChain_splitRec {R : Token → Token → Prop}
    (hbefore : ∀ {text span before t u}, u.FirstIn rules text span →
      splitRec rules (text.take span.start) = .ok before → before.getLast? = some t → R t u)
    (hafter : ∀ {text span after t u}, t.FirstIn rules text span →
      splitRec rules (text.drop span.stop) = .ok after → after.head? = some u → R t u)
    (h : splitRec rules text = .ok ts) : ts.IsChain R := by
  refine splitRec_induction (motive := fun _ ts => ts.IsChain R) List.isChain_nil ?_ h
  intro text hit before after hfirst hlt hb ha ihbefore ihafter
  have hin : (hit.token text).FirstIn rules text hit.span := ⟨hit.rule, hfirst, hlt, rfl⟩
  refine List.isChain_append.mpr ⟨ihbefore, List.isChain_cons.mpr ⟨?_, ihafter⟩, ?_⟩
  · intro u hu
    exact hafter hin ha hu
  · intro t ht u hu
    obtain rfl : hit.token text = u := by simpa using hu
    exact hbefore hin hb ht

end Provenance

end Highlight
