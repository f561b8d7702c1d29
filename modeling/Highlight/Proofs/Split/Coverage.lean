import Highlight.Proofs.Split.Recursion

/-!
# Splitting loses nothing

The contents of the tokens of a split text, one after the other, are the text
(`contents_splitRec`).  No token is empty, and each has one tag, that of the rule that selected it
(`isRaw_of_splitRec`).  A step does the same for the text from its cursor up to the end of its
selection (`splitStep_covers`), and fails only where a rule of the table selects an empty span
(`splitStep_error`); so a step by rules that select none succeeds (`exists_splitStep`).
-/

namespace Highlight

theorem contents_append (ts us : List Token) : contents (ts ++ us) = contents ts ++ contents us :=
  List.flatMap_append

theorem contents_cons (t : Token) (ts : List Token) : contents (t :: ts) = t.content ++ contents ts :=
  List.flatMap_cons

/-- Every character lies in a token. -/
theorem exists_token_at : ∀ {ts : List Token} {i : Nat} {c : Char}, (contents ts)[i]? = some c →
    ∃ before t after, ts = before ++ t :: after ∧ (contents before).length ≤ i ∧
      i < (contents before).length + t.content.length ∧ c ∈ t.content
  | [], _, _, h => absurd h (by simp [contents])
  | t :: ts, i, c, h => by
    rw [contents_cons, List.getElem?_append] at h
    split at h
    · next hlt =>
      exact ⟨[], t, ts, rfl, Nat.zero_le i, by simpa [contents] using hlt, List.mem_of_getElem? h⟩
    · next hle =>
      obtain ⟨before, u, after, rfl, hstart, hstop, hc⟩ := exists_token_at h
      refine ⟨t :: before, u, after, rfl, ?_, ?_, hc⟩
      all_goals rw [contents_cons, List.length_append]; omega

/-- A token as a table makes it: it is not empty, and has one tag, that of a rule of the table or of
one of the two rules that end every table. -/
def Token.IsRaw (rules : List Rule) (t : Token) : Prop :=
  t.content ≠ [] ∧ ∃ tag, t.tags = [tag] ∧
    (tag ∈ rules.map (·.tag) ∨ tag = "whitespace" ∨ tag = "ind")

/-- It has no other tag. -/
theorem Token.IsRaw.hasTag_eq_false {rules : List Rule} {t : Token} (h : t.IsRaw rules) {tag : String}
    (htag : tag ∉ rules.map (·.tag) ++ ["whitespace", "ind"]) : t.hasTag tag = false := by
  obtain ⟨_, own, htags, hown⟩ := h
  refine Bool.eq_false_iff.mpr fun hhas => htag ?_
  rw [Token.hasTag, htags, List.contains_iff_mem, List.mem_singleton] at hhas
  rw [hhas]
  simpa using hown

theorem Hit.isRaw_token {rules : List Rule} {text : List Char} {hit : Hit}
    (hfirst : firstSelection (Rule.complete rules) text = some hit)
    (hlt : hit.span.start < hit.span.stop) : (hit.token text).IsRaw rules := by
  have hstop := firstSelection_stop_le hfirst
  refine ⟨?_, hit.rule.tag, rfl, ?_⟩
  · show Span.of hit.span text ≠ []
    rw [← List.length_pos_iff, Span.of, List.length_take, List.length_drop]
    omega
  · have hmem := (firstSelection_spec hfirst).1
    rw [Rule.complete, List.mem_append] at hmem
    rcases hmem with hmem | hmem
    · exact Or.inl (List.mem_map_of_mem hmem)
    · rcases List.mem_cons.mp hmem with hmem | hmem
      · exact Or.inr (Or.inl (congrArg Rule.tag hmem))
      · exact Or.inr (Or.inr (congrArg Rule.tag (List.mem_singleton.mp hmem)))

/-- The text before a selection and the selection make up the text up to its end. -/
theorem Hit.take_append_token {hit : Hit} {text : List Char} (hlt : hit.span.start < hit.span.stop) :
    text.take hit.span.start ++ (hit.token text).content = text.take hit.span.stop := by
  show text.take hit.span.start ++ Span.of hit.span text = _
  rw [Span.of, ← List.take_add, Nat.add_sub_cancel' (Nat.le_of_lt hlt)]

/-- **The tokens of a split text make up the text.** -/
theorem contents_splitRec {rules : List Rule} {text : List Char} {ts : List Token}
    (h : splitRec rules text = .ok ts) : contents ts = text := by
  refine splitRec_induction (motive := fun text ts => contents ts = text) rfl ?_ h
  intro text hit before after _ hlt _ _ hbefore hafter
  rw [contents_append, contents_cons, hbefore, hafter, ← List.append_assoc,
    Hit.take_append_token hlt, List.take_append_drop]

/-- **Every token of a split text is one that the table makes.** -/
theorem isRaw_of_splitRec {rules : List Rule} {text : List Char} {ts : List Token}
    (h : splitRec rules text = .ok ts) : ∀ t ∈ ts, t.IsRaw rules := by
  refine splitRec_induction (motive := fun _ ts => ∀ t ∈ ts, t.IsRaw rules) ?_ ?_ h
  · intro t ht
    exact absurd ht List.not_mem_nil
  · intro text hit before after hfirst hlt _ _ hbefore hafter t ht
    rcases List.mem_append.mp ht with ht | ht
    · exact hbefore t ht
    · rcases List.mem_cons.mp ht with rfl | ht
      · exact Hit.isRaw_token hfirst hlt
      · exact hafter t ht

/-! ## Steps -/

/-- A step before the end of a text moves the cursor forward over the text of its tokens. -/
theorem splitStep_covers {source : List Char} {cursor stop : Nat} {rules : List Rule} {ts : List Token}
    (hc : cursor < source.length) (h : splitStep source cursor rules = .ok (ts, stop)) :
    cursor < stop ∧ stop ≤ source.length ∧ (∀ t ∈ ts, t.IsRaw rules) ∧
      contents ts = Span.of ⟨cursor, stop⟩ source := by
  obtain ⟨hlt, hle⟩ := splitStep_advances hc h
  obtain ⟨hit, skipped, hfirst, hspan, hskipped, rfl, rfl⟩ := splitStep_spec hc h
  refine ⟨hlt, hle, ?_, ?_⟩
  · intro t ht
    rcases List.mem_append.mp ht with ht | ht
    · exact isRaw_of_splitRec hskipped t ht
    · obtain rfl := List.mem_singleton.mp ht
      exact Hit.isRaw_token hfirst hspan
  -- the skipped text and the selection after it end where the step ends
  · rw [contents_append, contents_splitRec hskipped, Span.of_add_self,
      ← Hit.take_append_token hspan]
    exact congrArg (_ ++ ·) (List.append_nil _)

/-- A step fails only where a rule of the table selects an empty span. -/
theorem splitStep_error {source : List Char} {cursor : Nat} {rules : List Rule} {e : GrammarError}
    (hc : cursor < source.length) (h : splitStep source cursor rules = .error e) :
    ∃ r ∈ rules, ¬ r.NeverEmpty ∧ ∃ offset text, e = .emptyMatch r.tag r.text offset text := by
  obtain ⟨hit, hfirst⟩ := exists_firstSelection hc rules
  by_cases hlt : hit.span.start < hit.span.stop
  · have halike := splitSkipped_alike rules ((source.drop cursor).take hit.span.start)
    rw [splitStep_of_lt hc hfirst hlt] at h
    rw [Except.map_eq_error.mp h] at halike
    obtain ⟨rule, offset, text, he, hrec⟩ := halike.exists_of_error
    obtain ⟨hmem, hempty⟩ := splitRec_error hrec
    exact ⟨rule, hmem, hempty, offset, text, he⟩
  · have hempty : hit.span.stop ≤ hit.span.start := Nat.le_of_not_lt hlt
    rw [splitStep_of_empty hc hfirst hempty] at h
    exact ⟨hit.rule, mem_of_empty_selection hfirst hempty, not_neverEmpty_of_selection hfirst hempty,
      _, _, (Except.error.inj h).symm⟩

/-- Steps by rules that select no empty span succeed, wherever the cursor is. -/
theorem exists_splitStep {rules : List Rule} (hrules : ∀ r ∈ rules, r.NeverEmpty)
    (source : List Char) (cursor : Nat) : ∃ ts stop, splitStep source cursor rules = .ok (ts, stop) := by
  by_cases hc : cursor < source.length
  · cases h : splitStep source cursor rules with
    | error e =>
      obtain ⟨r, hr, hempty, _⟩ := splitStep_error hc h
      exact absurd (hrules r hr) hempty
    | ok step => exact ⟨step.1, step.2, rfl⟩
  · refine ⟨[], cursor, ?_⟩
    rw [splitStep, if_pos (Nat.le_of_not_lt hc)]
    rfl

end Highlight
