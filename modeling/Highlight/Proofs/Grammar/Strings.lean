import Highlight.Proofs.Grammar.Tokens
import Highlight.Proofs.Pattern.Letters
import Highlight.Proofs.Split.Layers
import Mathlib.Data.List.Basic
import Mathlib.Tactic.Choose

/-!
# Strings lie between quotation marks

A rule for strings in quotation marks selects the text from the first mark to the second, so its
matches in a text are the text from the first mark to the second, from the third to the fourth, and so
on (`Quotes.matchesFrom_eq`), whatever else the text holds.

In both built-in grammars such a rule comes first.  So it cuts a text at these spans, and no other rule
ever sees one of the marks that a pair is made of (`Quotes.spansOf_eq`).  In Lua a second rule of this
kind, with another mark, comes next, and does the same in each of the gaps that the first leaves
(`Quotes.mem_spansOf`).
-/

namespace Highlight

/-! ## Pairs of marks -/

/-- The spans from the first to the second of some places, from the third to the fourth, and so on. -/
def pairSpans : List Nat → List Span
  | first :: second :: rest => ⟨first, second + 1⟩ :: pairSpans rest
  | [_] | [] => []

/-- The spans from the first to the second mark of a text, from the third to the fourth, and so on;
the text starts at an offset. -/
def quotedSpans (quote : Char) (text : List Char) (offset : Nat) : List Span :=
  pairSpans (text.idxsOf quote offset)

theorem getElem?_pairSpans : ∀ (places : List Nat) (k : Nat), (pairSpans places)[k]? =
    places[2 * k]?.bind fun first => places[2 * k + 1]?.map fun second => ⟨first, second + 1⟩
  | [], _ => rfl
  | [_], 0 => rfl
  | [_], _ + 1 => rfl
  | _ :: _ :: _, 0 => rfl
  | first :: second :: rest, k + 1 => by
    show (pairSpans rest)[k]? = _
    exact getElem?_pairSpans rest k

theorem pairSpans_map_add (n : Nat) : ∀ places : List Nat, pairSpans (places.map (· + n)) =
    (pairSpans places).map fun span => ⟨span.start + n, span.stop + n⟩
  | [] => rfl
  | [_] => rfl
  | first :: second :: rest => by
    simp [pairSpans, pairSpans_map_add n rest, Nat.add_right_comm]

theorem quotedSpans_shift (quote : Char) (text : List Char) (offset : Nat) :
    quotedSpans quote text offset =
      (quotedSpans quote text 0).map fun span => ⟨span.start + offset, span.stop + offset⟩ := by
  rw [quotedSpans, List.idxsOf_start, pairSpans_map_add]
  rfl

section Pairs

variable {quote : Char} {before body after : List Char}

theorem idxsOf_of_notMem (h : quote ∉ before) (offset : Nat) : before.idxsOf quote offset = [] :=
  List.idxsOf_eq_nil_iff.mpr fun _ hc => beq_eq_false_iff_ne.mpr fun he => h (he ▸ hc)

/-- The first two marks of a text are the first pair, and the others are paired up after them. -/
theorem quotedSpans_of_pair (hbefore : quote ∉ before) (hbody : quote ∉ body) (offset : Nat) :
    quotedSpans quote (before ++ (quote :: (body ++ [quote])) ++ after) offset =
      ⟨offset + before.length, offset + (before.length + (body.length + 2))⟩ ::
        quotedSpans quote after (offset + (before.length + (body.length + 2))) := by
  have hplaces : (before ++ (quote :: (body ++ [quote])) ++ after).idxsOf quote offset =
      (offset + before.length) :: (offset + before.length + 1 + body.length) ::
        after.idxsOf quote (offset + (before.length + (body.length + 2))) := by
    rw [List.idxsOf_append, List.idxsOf_append, idxsOf_of_notMem hbefore, List.idxsOf_cons,
      if_pos (beq_self_eq_true quote), List.idxsOf_append, idxsOf_of_notMem hbody, List.idxsOf_cons,
      if_pos (beq_self_eq_true quote)]
    simp
  rw [quotedSpans, hplaces, pairSpans, quotedSpans]
  congr 2
  omega

/-- Where there are not two marks, nothing lies between marks. -/
theorem quotedSpans_of_count {text : List Char} (h : text.count quote < 2) (offset : Nat) :
    quotedSpans quote text offset = [] := by
  rw [← List.length_idxsOf (s := offset)] at h
  rw [quotedSpans]
  match text.idxsOf quote offset, h with
  | [], _ => rfl
  | [_], _ => rfl

/-- A text with two marks or more has a first and a second one. -/
theorem exists_pair {text : List Char} (h : 2 ≤ text.count quote) : ∃ before body after,
    text = before ++ (quote :: (body ++ [quote])) ++ after ∧ quote ∉ before ∧ quote ∉ body := by
  obtain ⟨before, rest, rfl, hbefore⟩ :=
    List.eq_append_cons_of_mem (List.count_pos_iff.mp (Nat.lt_of_lt_of_le Nat.two_pos h))
  rw [List.count_append, List.count_eq_zero_of_not_mem hbefore, List.count_cons_self] at h
  have hrest : 0 < rest.count quote := by omega
  obtain ⟨body, after, rfl, hbody⟩ := List.eq_append_cons_of_mem (List.count_pos_iff.mp hrest)
  exact ⟨before, body, after, by simp, hbefore, hbody⟩

/-- The text before the first mark is known, and the text after it. -/
theorem append_cons_inj {x y z w : List Char} (hx : quote ∉ x) (hy : quote ∉ y)
    (h : x ++ quote :: z = y ++ quote :: w) : x = y ∧ z = w := by
  have hlength := congrArg (List.idxOf quote) h
  rw [List.idxOf_append_of_notMem hx, List.idxOf_append_of_notMem hy, List.idxOf_cons_self,
    List.idxOf_cons_self] at hlength
  obtain ⟨hxy, hzw⟩ := List.append_inj h hlength
  exact ⟨hxy, (List.cons.inj hzw).2⟩

end Pairs

/-! ## Rules for text between marks -/

/-- A rule for the text between two marks. -/
structure Rule.Quotes (r : Rule) (quote : Char) : Prop where
  plain : r.Plain
  pattern : r.pattern = .concat [.char quote, .many 0 (.except quote), .char quote]

namespace Rule.Quotes

variable {r : Rule} {quote : Char} {text before body after : List Char} {span : Span}

theorem matches_iff (hr : r.Quotes quote) {w : List Char} :
    r.pattern.Matches w ↔ ∃ body, w = quote :: (body ++ [quote]) ∧ quote ∉ body := by
  have hbody : ∀ {body : List Char}, (∀ c ∈ body, (CharClass.except quote).contains c = true) ↔
      quote ∉ body := by
    intro body
    simp only [CharClass.contains_except, bne_iff_ne]
    exact ⟨fun h hmem => h quote hmem rfl, fun h c hc he => h (he ▸ hc)⟩
  rw [hr.pattern]
  constructor
  · rintro ⟨u, v, rfl, hu, body, w, rfl, hbodyw, hw⟩
    rw [Pattern.matches_char.mp hu, Pattern.matches_char.mp hw]
    exact ⟨body, rfl, hbody.mp (Pattern.matches_many.mp hbodyw).2⟩
  · rintro ⟨body, rfl, hnot⟩
    exact ⟨[quote], body ++ [quote], rfl, Pattern.matches_char.mpr rfl, body, [quote], rfl,
      Pattern.matches_many.mpr ⟨Nat.zero_le _, hbody.mpr hnot⟩, Pattern.matches_char.mpr rfl⟩

/-- Such a rule selects from a mark to the next. -/
theorem exists_of_select (hr : r.Quotes quote) (h : r.select text = some span) :
    ∃ before body after, text = before ++ (quote :: (body ++ [quote])) ++ after ∧ quote ∉ body ∧
      span = ⟨before.length, before.length + (body.length + 2)⟩ := by
  obtain ⟨body, hbody, hnot⟩ := hr.matches_iff.mp
    (Rule.matches_of_select hr.plain.regular hr.plain.captures h)
  have hlt := hr.plain.neverEmpty _ _ h
  have hstop := select_stop_le h
  have hlength : span.stop - span.start = body.length + 2 := by
    have hof := congrArg List.length hbody
    rw [Span.of, List.length_take, List.length_drop] at hof
    simp only [List.length_cons, List.length_append, List.length_nil] at hof
    omega
  refine ⟨text.take span.start, body, text.drop span.stop, ?_, hnot, ?_⟩
  · rw [← hbody]
    exact (split_of_select h).symm
  · rw [List.length_take, Nat.min_eq_left (by omega), ← hlength, Nat.add_sub_cancel' (select_start_le_stop h)]

/-- **It selects from the first mark to the second.** -/
theorem select_of_pair (hr : r.Quotes quote) (hbefore : quote ∉ before) (hbody : quote ∉ body) :
    r.select (before ++ (quote :: (body ++ [quote])) ++ after) =
      some ⟨before.length, before.length + (body.length + 2)⟩ := by
  have hpair : r.pattern.Matches (quote :: (body ++ [quote])) := hr.matches_iff.mpr ⟨body, rfl, hbody⟩
  cases hselect : r.select (before ++ (quote :: (body ++ [quote])) ++ after) with
  | none => exact absurd hpair (hr.plain.not_matches hselect)
  | some span =>
    obtain ⟨before', body', after', htext, hbody', rfl⟩ := hr.exists_of_select hselect
    -- the first mark is the only one that comes that early
    have hle : before'.length ≤ before.length := hr.plain.start_le hselect hpair
    simp only [List.append_assoc, List.cons_append, List.nil_append] at htext
    have hstart : before' <+: before := List.prefix_of_prefix_length_le
      (htext ▸ List.prefix_append before' _) (List.prefix_append before _) hle
    have hbefore' : quote ∉ before' := fun hmem => hbefore (hstart.subset hmem)
    obtain ⟨rfl, hrest⟩ := append_cons_inj hbefore hbefore' htext
    obtain ⟨rfl, _⟩ := append_cons_inj hbody hbody' hrest
    rfl

/-- It selects nothing where there are not two marks. -/
theorem select_of_count (hr : r.Quotes quote) (h : text.count quote < 2) : r.select text = none := by
  cases hselect : r.select text with
  | none => rfl
  | some span =>
    obtain ⟨before, body, after, rfl, _⟩ := hr.exists_of_select hselect
    simp only [List.count_append, List.count_cons_self, List.count_nil] at h
    omega

/-- **Its matches are the text from the first mark to the second, from the third to the fourth, and so
on.** -/
theorem matchesFrom_eq (hr : r.Quotes quote) : ∀ cursor, cursor ≤ text.length →
    r.matchesFrom text cursor = quotedSpans quote (text.drop cursor) cursor := by
  refine hr.plain.matches_induction ?_ ?_
  · intro cursor _ hselect
    rw [hr.plain.matchesFrom_of_none hselect, quotedSpans_of_count]
    refine Nat.lt_of_not_le fun hcount => ?_
    obtain ⟨before, body, after, htext, hbefore, hbody⟩ := exists_pair hcount
    rw [htext, hr.select_of_pair hbefore hbody] at hselect
    cases hselect
  · intro cursor span hc hselect _ hafter
    have hcount : 2 ≤ (text.drop cursor).count quote := by
      refine Nat.le_of_not_lt fun hcount => ?_
      rw [hr.select_of_count hcount] at hselect
      cases hselect
    obtain ⟨before, body, after, htext, hbefore, hbody⟩ := exists_pair hcount
    have hsame := hselect
    rw [htext, hr.select_of_pair hbefore hbody] at hsame
    obtain rfl := Option.some.inj hsame
    have hrest : text.drop (before.length + (body.length + 2) + cursor) = after := by
      rw [Nat.add_comm, ← List.drop_drop, htext]
      simp
    rw [hr.plain.matchesFrom_of_some hc hselect, hafter, hrest, htext,
      quotedSpans_of_pair hbefore hbody]
    simp only [Nat.add_comm cursor]

/-! ## Tables that start with such a rule -/

section Table

variable {rules : List Rule} {source : List Char} {raw : List Token}

/-- **Such a rule at the head of a table cuts a text at the pairs of marks.** -/
theorem exists_cutAt (hr : r.Quotes quote) (hrules : ∀ r ∈ rules, r.NeverEmpty)
    (h : splitRec (r :: rules) source = .ok raw) :
    ∃ inner : List Char → List Token, (∀ part, splitRec rules part = .ok (inner part)) ∧
      raw = cutAt r.tag inner source 0 (r.matchesFrom source 0) := by
  have hall : ∀ part, ∃ ts, splitRec rules part = .ok ts := exists_splitRec hrules
  choose inner hinner using hall
  have hcut := splitRec_eq_cutAt hr.plain hinner 0 (Nat.zero_le source.length)
  exact ⟨inner, hinner, Except.ok.inj (h.symm.trans hcut)⟩

/-- If no other rule has its tag, they are the spans of the tag. -/
theorem spansOf_eq (hr : r.Quotes quote) (hrules : ∀ r ∈ rules, r.NeverEmpty)
    (htag : r.tag ∉ rules.map (·.tag) ++ ["whitespace", "ind"])
    (h : splitRec (r :: rules) source = .ok raw) : spansOf r.tag 0 raw = quotedSpans quote source 0 := by
  obtain ⟨inner, hinner, rfl⟩ := hr.exists_cutAt hrules h
  have hother : ∀ part, ∀ t ∈ inner part, t.hasTag r.tag = false :=
    fun part t ht => (isRaw_of_splitRec (hinner part) t ht).hasTag_eq_false htag
  rw [spansOf_cutAt hr.plain (fun part => contents_splitRec (hinner part)) hother 0 (Nat.zero_le _)]
  exact hr.matchesFrom_eq 0 (Nat.zero_le _)

/-- If others do, they select in the gaps. -/
theorem mem_spansOf (hr : r.Quotes quote) (hrules : ∀ r ∈ rules, r.NeverEmpty)
    (h : splitRec (r :: rules) source = .ok raw) (span : Span) : span ∈ spansOf r.tag 0 raw ↔
      span ∈ quotedSpans quote source 0 ∨ ∃ gap ∈ gaps source.length 0 (quotedSpans quote source 0),
        ∃ ts, splitRec rules (gap.of source) = .ok ts ∧ span ∈ spansOf r.tag gap.start ts := by
  obtain ⟨inner, hinner, rfl⟩ := hr.exists_cutAt hrules h
  have hmatches : r.matchesFrom source 0 = quotedSpans quote source 0 :=
    hr.matchesFrom_eq 0 (Nat.zero_le _)
  rw [mem_spansOf_cutAt hr.plain (fun part => contents_splitRec (hinner part)) span 0 (Nat.zero_le _),
    hmatches]
  simp [hinner]

end Table

end Rule.Quotes

/-! ## The strings of the built-in grammars -/

theorem Literal.string_quotes : Literal.string.Quotes '"' := ⟨⟨rfl, rfl, rfl⟩, rfl⟩

theorem Lua.string_quotes : Lua.string.Quotes '\'' := ⟨⟨rfl, rfl, rfl⟩, rfl⟩

theorem Json.spansOf_retagBatch (raw : List Token) :
    spansOf "string" 0 (retagBatch raw) = spansOf "string" 0 raw :=
  spansOf_congr (map_retagBatch (fun t => (t.content, t.hasTag "string"))
    (Token.content_hasTag_addTag (by decide)) (Token.content_hasTag_addTag (by decide)) raw)

theorem Lua.spansOf_tagWord (raw : List Token) :
    spansOf "string" 0 (raw.map (tagWord keywords)) = spansOf "string" 0 raw := by
  refine spansOf_congr ?_
  rw [List.map_map]
  exact List.map_congr_left fun t _ => view_tagWord (fun t => (t.content, t.hasTag "string"))
    (Token.content_hasTag_addTag (by decide)) (Token.content_hasTag_addTag (by decide)) keywords t

theorem Json.spansOf_string {source : List Char} {raw : List Token}
    (h : splitRec rules source = .ok raw) : spansOf "string" 0 raw = quotedSpans '"' source 0 :=
  Literal.string_quotes.spansOf_eq
    (fun r hr => neverEmpty_of_mem_rules r (List.mem_cons_of_mem _ hr)) (by decide) h

/-- The rules of Lua after the one for strings in double quotation marks. -/
theorem Lua.spansOf_string_of_gap {part : List Char} {offset : Nat} {ts : List Token}
    (h : splitRec rules.tail part = .ok ts) :
    spansOf "string" offset ts = quotedSpans '\'' part offset := by
  have hspans : spansOf "string" 0 ts = quotedSpans '\'' part 0 :=
    string_quotes.spansOf_eq (fun r hr => neverEmpty_of_mem_rules r
      (List.mem_cons_of_mem _ (List.mem_cons_of_mem _ hr))) (by decide) h
  have hshift := spansOf_shift "string" offset 0 ts
  rw [Nat.zero_add] at hshift
  rw [hshift, hspans, ← quotedSpans_shift]

theorem Lua.mem_spansOf_string {source : List Char} {raw : List Token}
    (h : splitRec rules source = .ok raw) (span : Span) : span ∈ spansOf "string" 0 raw ↔
      span ∈ quotedSpans '"' source 0 ∨ ∃ gap ∈ gaps source.length 0 (quotedSpans '"' source 0),
        span ∈ quotedSpans '\'' (gap.of source) gap.start := by
  have hrules : ∀ r ∈ rules.tail, r.NeverEmpty :=
    fun r hr => neverEmpty_of_mem_rules r (List.mem_of_mem_tail hr)
  have hgap : ∀ gap : Span, (∃ ts, splitRec rules.tail (gap.of source) = .ok ts ∧
      span ∈ spansOf "string" gap.start ts) ↔ span ∈ quotedSpans '\'' (gap.of source) gap.start := by
    intro gap
    obtain ⟨ts, hts⟩ := exists_splitRec hrules (gap.of source)
    rw [← spansOf_string_of_gap hts]
    constructor
    · rintro ⟨us, hus, hmem⟩
      rwa [Except.ok.inj (hts.symm.trans hus)]
    · exact fun hmem => ⟨ts, hts, hmem⟩
  refine (Literal.string_quotes.mem_spansOf hrules h span).trans (or_congr_right ?_)
  exact exists_congr fun gap => and_congr_right fun _ => hgap gap

/-- **The strings of the built-in grammars are the pairs of quotation marks.**  A pair lies between the
(2k+1)-th and the (2k+2)-th mark of a text.  The strings of JSON data are, one after the other, the pairs
of double marks, and those of Lua are these and the pairs of single marks in the gaps that they leave. -/
theorem strings_quoted :
    (∀ (quote : Char) (text : List Char) (offset k : Nat), (quotedSpans quote text offset)[k]? =
      (text.idxsOf quote offset)[2 * k]?.bind fun first =>
        (text.idxsOf quote offset)[2 * k + 1]?.map fun second => ⟨first, second + 1⟩) ∧
    (∀ source, ∃ ts, tokenize Json.grammar source false = .ok ts ∧
      spansOf "string" 0 ts = quotedSpans '"' source 0) ∧
    ∀ source, ∃ ts, tokenize Lua.grammar source false = .ok ts ∧ ∀ span,
      span ∈ spansOf "string" 0 ts ↔ span ∈ quotedSpans '"' source 0 ∨
        ∃ gap ∈ gaps source.length 0 (quotedSpans '"' source 0),
          span ∈ quotedSpans '\'' (gap.of source) gap.start := by
  refine ⟨fun quote text offset k => getElem?_pairSpans _ k, fun source => ?_, fun source => ?_⟩
  · obtain ⟨raw, hraw, hok⟩ := Json.exists_tokenize source
    exact ⟨_, hok, (Json.spansOf_retagBatch raw).trans (Json.spansOf_string hraw)⟩
  · obtain ⟨raw, hraw, hok⟩ := Lua.exists_tokenize source
    refine ⟨_, hok, fun span => ?_⟩
    rw [Lua.spansOf_tagWord]
    exact Lua.mem_spansOf_string hraw span

/-- A single mark that is left over before a string, one inside of it, and a pair after it. -/
theorem strings_quoted_unpaired :
    (∃ ts, tokenize Json.grammar ['\'', '"', '\'', '"', '\'', 'b', '\''] false = .ok ts ∧
      spansOf "string" 0 ts = [⟨1, 4⟩]) ∧
    ∃ ts, tokenize Lua.grammar ['\'', '"', '\'', '"', '\'', 'b', '\''] false = .ok ts ∧
      ∀ span, span ∈ spansOf "string" 0 ts ↔ span = ⟨1, 4⟩ ∨ span = ⟨4, 7⟩ := by
  have hdouble : quotedSpans '"' ['\'', '"', '\'', '"', '\'', 'b', '\''] 0 = [⟨1, 4⟩] := by decide
  have hbefore : quotedSpans '\'' (Span.of ⟨0, 1⟩ ['\'', '"', '\'', '"', '\'', 'b', '\'']) 0 = [] := by
    decide
  have hafter : quotedSpans '\'' (Span.of ⟨4, 7⟩ ['\'', '"', '\'', '"', '\'', 'b', '\'']) 4 =
      [⟨4, 7⟩] := by
    decide
  obtain ⟨_, hjson, hlua⟩ := strings_quoted
  obtain ⟨ts, hok, hspans⟩ := hjson ['\'', '"', '\'', '"', '\'', 'b', '\'']
  obtain ⟨us, hok', hmem⟩ := hlua ['\'', '"', '\'', '"', '\'', 'b', '\'']
  refine ⟨⟨ts, hok, hspans.trans hdouble⟩, us, hok', fun span => ?_⟩
  rw [hmem, hdouble]
  simp [gaps, hbefore, hafter]

end Highlight
