import Highlight.Grammar.Literal
import Highlight.Proofs.Pattern.Shift
import Highlight.Proofs.Split.Coverage
import Highlight.Proofs.Split.Failure

/-!
# Priority beats position

A table of plain rules splits a text in layers (`layered`): the first rule cuts the text at its
matches, each the leftmost after the one before; the rules after it split what lies between, each
piece on its own; and a piece that no rule cuts falls into runs of white space and single characters
(`loose`).

Splitting asks all the rules again in every piece.  It still comes to the layers, since a rule that
found nothing in a text finds nothing in a part of it, and nothing before what it has found: rules
that select nothing in a text may be left out (`splitRec_append_of_none`).  The layers are an
induction on the rules (`splitRec_eq_layered`), and for each of them on the text after its matches
(`splitRec_eq_cutAt`).

A pattern that looks at the text around a match would spoil this: it may find in a piece what it did
not find in the whole.  So would an atomic group, which looks at nothing else but may come to another
first way where the text is cut (`splitSteps_ne_layered_atomic`).
-/

namespace Highlight

open Text

/-! ## The matches of a rule -/

namespace Rule

/-- The leftmost match of a rule at or after a place in a text. -/
def nextMatch? (r : Rule) (text : List Char) (cursor : Nat) : Option Span :=
  (r.pattern.searchFrom (text.take cursor).reverse (text.drop cursor) cursor).map fun found =>
    ⟨found.start, found.final.offset⟩

/-- The matches of a rule in a text from a place on, each the leftmost after the one before.  There
is none after a match that is empty. -/
def matchesFrom (r : Rule) (text : List Char) (cursor : Nat) : List Span :=
  match r.nextMatch? text cursor with
  | none => []
  | some span =>
    if cursor < span.stop ∧ span.stop ≤ text.length then span :: r.matchesFrom text span.stop
    else [span]
termination_by text.length - cursor

/-- A plain rule selects in the rest of a text what it matches there in the whole text. -/
theorem Plain.nextMatch?_eq {r : Rule} (hr : r.Plain) (text : List Char) (cursor : Nat) :
    r.nextMatch? text cursor = r.find text cursor := by
  have hagree := Pattern.searchFrom_agree hr.regular cursor (text.drop cursor) []
    (text.take cursor).reverse 0
  rw [Nat.zero_add] at hagree
  rw [nextMatch?, find_eq, hr.select_eq, Pattern.search, Option.map_map]
  have hpair := congrArg (Option.map fun pair : Nat × Nat => (⟨pair.1, pair.2⟩ : Span)) hagree
  rw [Option.map_map, Option.map_map] at hpair
  exact hpair

section Matches

variable {r : Rule} {text : List Char} {cursor : Nat}

theorem Plain.matchesFrom_of_none (hr : r.Plain) (h : r.select (text.drop cursor) = none) :
    r.matchesFrom text cursor = [] := by
  rw [matchesFrom, hr.nextMatch?_eq, find_eq, h]
  rfl

theorem Plain.matchesFrom_of_some (hr : r.Plain) (hc : cursor ≤ text.length) {span : Span}
    (h : r.select (text.drop cursor) = some span) : r.matchesFrom text cursor =
      ⟨span.start + cursor, span.stop + cursor⟩ :: r.matchesFrom text (span.stop + cursor) := by
  have hlt := hr.neverEmpty _ _ h
  have hle := select_stop_le h
  rw [List.length_drop] at hle
  have hmoves : cursor < span.stop + cursor ∧ span.stop + cursor ≤ text.length := by omega
  rw [matchesFrom, hr.nextMatch?_eq, find_eq, h]
  show (if cursor < span.stop + cursor ∧ span.stop + cursor ≤ text.length then _ else _) = _
  rw [if_pos hmoves]

/-- **Induction along the matches** of a plain rule in a text, on the text left after each of them.
-/
theorem Plain.matches_induction (hr : r.Plain) {motive : Nat → Prop}
    (none : ∀ cursor, cursor ≤ text.length → r.select (text.drop cursor) = none → motive cursor)
    (some : ∀ (cursor : Nat) (span : Span), cursor ≤ text.length →
      r.select (text.drop cursor) = some span → span.start < span.stop →
      motive (span.stop + cursor) → motive cursor) :
    ∀ cursor, cursor ≤ text.length → motive cursor := by
  intro cursor
  induction hn : text.length - cursor using Nat.strongRecOn generalizing cursor with
  | ind n ih =>
    intro hc
    cases hselect : r.select (text.drop cursor) with
    | none => exact none cursor hc hselect
    | some span =>
      have hlt := hr.neverEmpty _ _ hselect
      have hle := select_stop_le hselect
      rw [List.length_drop] at hle
      have hafter := ih (text.length - (span.stop + cursor)) (by omega) (span.stop + cursor) rfl
        (by omega)
      exact some cursor span hc hselect hlt hafter

end Matches

end Rule

/-! ## Layers -/

/-- A text that no rule cuts: its runs of white space, and every other character on its own. -/
def loose : List Char → List Token
  | [] => []
  | c :: rest =>
    if isAsciiBlank c then
      .single (c :: rest.takeWhile isAsciiBlank) "whitespace" :: loose (rest.dropWhile isAsciiBlank)
    else .single [c] "ind" :: loose rest
termination_by text => text.length
decreasing_by
  · exact Nat.lt_succ_of_le (List.dropWhile_suffix _).length_le
  · exact Nat.lt_succ_self _

/-- A text from a place on, cut at spans: a token for each of them, and between them what `inner`
makes of the text. -/
def cutAt (tag : String) (inner : List Char → List Token) (text : List Char) :
    (cursor : Nat) → List Span → List Token
  | cursor, [] => inner (text.drop cursor)
  | cursor, span :: spans =>
    inner (Span.of ⟨cursor, span.start⟩ text) ++
      .single (span.of text) tag :: cutAt tag inner text span.stop spans

/-- A text split in layers: cut at the matches of the first rule, and what lies between them split
by the rules after it. -/
def layered : List Rule → List Char → List Token
  | [], text => loose text
  | r :: rules, text => cutAt r.tag (layered rules) text 0 (r.matchesFrom text 0)

/-! ## Splitting in layers -/

/-- Rules that select nothing in a text select nothing in what it starts with. -/
theorem select_take_of_plain {before : List Rule} {text : List Char}
    (hplain : ∀ r ∈ before, r.Plain) (h : ∀ r ∈ before, r.select text = none) (n : Nat) :
    ∀ r ∈ before, r.select (text.take n) = none :=
  fun r hr => (hplain r hr).select_of_isInfix (h r hr) (List.take_prefix n text).isInfix

/-- Nor do they in what it ends with. -/
theorem select_drop_of_plain {before : List Rule} {text : List Char}
    (hplain : ∀ r ∈ before, r.Plain) (h : ∀ r ∈ before, r.select text = none) (n : Nat) :
    ∀ r ∈ before, r.select (text.drop n) = none :=
  fun r hr => (hplain r hr).select_of_isInfix (h r hr) (List.drop_suffix n text).isInfix

/-- Rules that select nothing leave the choice to those after them. -/
theorem firstSelection_append {before rules : List Rule} {text : List Char}
    (h : ∀ r ∈ before, r.select text = none) :
    firstSelection (before ++ rules) text = firstSelection rules text := by
  have hnone : before.findSome? (fun r => (r.select text).map (⟨r, ·⟩ : Span → Hit)) = none :=
    List.findSome?_eq_none_iff.mpr fun r hr => by rw [h r hr, Option.map_none]
  rw [firstSelection, List.findSome?_append, hnone, Option.none_or, firstSelection]

theorem firstSelection_cons_of_some {r : Rule} {text : List Char} {span : Span}
    (h : r.select text = some span) (rules : List Rule) :
    firstSelection (r :: rules) text = some ⟨r, span⟩ := by
  rw [firstSelection, List.findSome?_cons, h, Option.map_some]

/-- A selection at the start of a text leaves only what comes after it. -/
theorem splitRec_of_start {rules : List Rule} {text : List Char} {r : Rule} {n : Nat} (hn : 0 < n)
    (h : firstSelection (Rule.complete rules) text = some ⟨r, ⟨0, n⟩⟩) : splitRec rules text =
      (splitRec rules (text.drop n)).map (Token.single (text.take n) r.tag :: ·) := by
  rw [splitRec_of_lt h hn, List.take_zero, splitRec_nil]
  rfl

theorem take_length_takeWhile {α : Type} (p : α → Bool) (l : List α) :
    l.take (l.takeWhile p).length = l.takeWhile p := by
  have htake := @List.take_left _ (l.takeWhile p) (l.dropWhile p)
  rw [List.takeWhile_append_dropWhile] at htake
  exact htake

theorem drop_length_takeWhile {α : Type} (p : α → Bool) (l : List α) :
    l.drop (l.takeWhile p).length = l.dropWhile p := by
  have hdrop := @List.drop_left _ (l.takeWhile p) (l.dropWhile p)
  rw [List.takeWhile_append_dropWhile] at hdrop
  exact hdrop

theorem firstSelection_complete_append {before rules : List Rule} {text : List Char}
    (h : ∀ r ∈ before, r.select text = none) : firstSelection (Rule.complete (before ++ rules)) text =
      firstSelection (Rule.complete rules) text := by
  rw [Rule.complete, List.append_assoc]
  exact firstSelection_append h

/-- **Rules that select nothing in a text may be left out**: they select nothing in its pieces. -/
theorem splitRec_append_of_none {before rules : List Rule} {text : List Char}
    (hplain : ∀ r ∈ before, r.Plain) : (∀ r ∈ before, r.select text = none) →
    splitRec (before ++ rules) text = splitRec rules text := by
  induction text using split_induction rules with
  | nil =>
    intro _
    rw [splitRec_nil, splitRec_nil]
  | empty text hit hfirst hempty =>
    intro hnone
    have hsame := (firstSelection_complete_append hnone).trans hfirst
    rw [splitRec_of_empty hsame hempty, splitRec_of_empty hfirst hempty]
  | node text hit hfirst hlt ihbefore ihafter =>
    intro hnone
    have hsame := (firstSelection_complete_append hnone).trans hfirst
    rw [splitRec_of_lt hsame hlt, splitRec_of_lt hfirst hlt,
      ihbefore (select_take_of_plain hplain hnone hit.span.start),
      ihafter (select_drop_of_plain hplain hnone hit.span.stop)]

/-- Without rules, all the white space that comes next is selected. -/
theorem firstSelection_of_blank {c : Char} (hblank : isAsciiBlank c = true) (rest : List Char) :
    firstSelection (Rule.complete []) (c :: rest) =
      some ⟨Rule.blanks, ⟨0, (rest.takeWhile isAsciiBlank).length + 1⟩⟩ := by
  have hselect : Rule.blanks.select (c :: rest) =
      some ⟨0, (rest.takeWhile isAsciiBlank).length + 1⟩ := by
    rw [Rule.select_blanks, List.takeWhile_cons_of_pos hblank]
    rfl
  exact firstSelection_cons_of_some hselect _

/-- Where there is none, the next character is selected. -/
theorem firstSelection_of_not_blank {c : Char} (hblank : ¬ isAsciiBlank c = true)
    (rest : List Char) : firstSelection (Rule.complete []) (c :: rest) =
      some ⟨Rule.anyChar, ⟨0, 1⟩⟩ := by
  have hselect : Rule.blanks.select (c :: rest) = none := by
    rw [Rule.select_blanks, List.takeWhile_cons_of_neg hblank]
    rfl
  rw [Rule.complete, List.nil_append, firstSelection, List.findSome?_cons, hselect]
  rfl

/-- The two rules that end every table leave a text loose. -/
theorem splitRec_eq_loose (text : List Char) : splitRec [] text = .ok (loose text) := by
  induction text using loose.induct with
  | case1 => rw [splitRec_nil, loose]
  | case2 c rest hblank ih =>
    rw [splitRec_of_start (Nat.succ_pos _) (firstSelection_of_blank hblank rest),
      List.take_succ_cons, take_length_takeWhile, List.drop_succ_cons, drop_length_takeWhile, ih,
      loose, if_pos hblank]
    rfl
  | case3 c rest hblank ih =>
    rw [splitRec_of_start Nat.one_pos (firstSelection_of_not_blank hblank rest), List.drop_one,
      List.tail_cons, ih, loose, if_neg hblank]
    rfl

section Cut

variable {rules : List Rule} {r : Rule} {inner : List Char → List Token} {text : List Char}

/-- **A plain rule at the head of a table cuts the text at its matches**, whatever the other rules
are, if they split every text. -/
theorem splitRec_eq_cutAt (hr : r.Plain) (hinner : ∀ part, splitRec rules part = .ok (inner part)) :
    ∀ cursor, cursor ≤ text.length → splitRec (r :: rules) (text.drop cursor) =
      .ok (cutAt r.tag inner text cursor (r.matchesFrom text cursor)) := by
  -- in the pieces between the matches the rule selects nothing
  have hpiece : ∀ part, r.select part = none → splitRec (r :: rules) part = .ok (inner part) := by
    intro part hnone
    have hrest : splitRec ([r] ++ rules) part = splitRec rules part :=
      splitRec_append_of_none (List.forall_mem_singleton.mpr hr) (List.forall_mem_singleton.mpr hnone)
    exact hrest.trans (hinner part)
  refine hr.matches_induction ?_ ?_
  · intro cursor _ hselect
    rw [hr.matchesFrom_of_none hselect, cutAt]
    exact hpiece _ hselect
  · intro cursor span hc hselect hlt hafter
    have hfirst : firstSelection (Rule.complete (r :: rules)) (text.drop cursor) = some ⟨r, span⟩ :=
      firstSelection_cons_of_some hselect _
    have hgap := hpiece ((text.drop cursor).take span.start) (hr.select_before hselect)
    have htoken := Hit.token_shift ⟨r, span⟩ text cursor
    rw [splitRec_of_lt hfirst hlt, hgap, List.drop_drop, Nat.add_comm cursor, hafter,
      hr.matchesFrom_of_some hc hselect, cutAt, Span.of_add_self, ← htoken]
    rfl

end Cut

/-- **Where the rules before select nothing, the others split a text in layers.** -/
theorem splitRec_eq_layered (rules before : List Rule) (text : List Char)
    (hplain : ∀ r ∈ before ++ rules, r.Plain) (hbefore : ∀ r ∈ before, r.select text = none) :
    splitRec (before ++ rules) text = .ok (layered rules text) := by
  rw [List.forall_mem_append] at hplain
  rw [splitRec_append_of_none hplain.1 hbefore]
  have hrules := hplain.2
  clear hplain hbefore
  induction rules generalizing text with
  | nil => exact splitRec_eq_loose text
  | cons r rules ih =>
    rw [List.forall_mem_cons] at hrules
    exact splitRec_eq_cutAt hrules.1 (fun part => ih part hrules.2) 0 (Nat.zero_le _)

/-! ## The tokens of the first rule -/

/-- The spans of the tokens with a tag, of which the first starts at an offset. -/
def spansOf (tag : String) : (offset : Nat) → List Token → List Span
  | _, [] => []
  | offset, t :: ts =>
    let stop := offset + t.content.length
    if t.hasTag tag then ⟨offset, stop⟩ :: spansOf tag stop ts else spansOf tag stop ts

theorem spansOf_append (tag : String) : ∀ (offset : Nat) (ts us : List Token),
    spansOf tag offset (ts ++ us) =
      spansOf tag offset ts ++ spansOf tag (offset + (contents ts).length) us
  | offset, [], us => rfl
  | offset, t :: ts, us => by
    have ih := spansOf_append tag (offset + t.content.length) ts us
    rw [Nat.add_assoc, ← List.length_append, ← contents_cons] at ih
    rw [List.cons_append, spansOf, spansOf]
    split
    · rw [ih, List.cons_append]
    · exact ih

theorem spansOf_eq_nil {tag : String} : ∀ {offset : Nat} {ts : List Token},
    (∀ t ∈ ts, t.hasTag tag = false) → spansOf tag offset ts = []
  | _, [], _ => rfl
  | offset, t :: ts, h => by
    rw [spansOf, h t List.mem_cons_self, if_neg Bool.false_ne_true]
    exact spansOf_eq_nil fun u hu => h u (List.mem_cons_of_mem t hu)

/-- The spans depend on the lengths of the tokens and on which of them have the tag. -/
theorem spansOf_congr {tag : String} : ∀ {offset : Nat} {ts us : List Token},
    ts.map (fun t => (t.content, t.hasTag tag)) = us.map (fun u => (u.content, u.hasTag tag)) →
    spansOf tag offset ts = spansOf tag offset us
  | _, [], [], _ => rfl
  | offset, t :: ts, u :: us, h => by
    obtain ⟨hhead, hrest⟩ := List.cons.inj h
    obtain ⟨hcontent, htag⟩ := Prod.mk.inj hhead
    rw [spansOf, spansOf, hcontent, htag, spansOf_congr hrest]

/-- A text that starts at another offset has the same spans, moved. -/
theorem spansOf_shift (tag : String) (n : Nat) : ∀ (offset : Nat) (ts : List Token),
    spansOf tag (offset + n) ts =
      (spansOf tag offset ts).map fun span => ⟨span.start + n, span.stop + n⟩
  | _, [] => rfl
  | offset, t :: ts => by
    have ih := spansOf_shift tag n (offset + t.content.length) ts
    rw [Nat.add_right_comm] at ih
    rw [spansOf, spansOf, ih]
    split
    · rw [List.map_cons, Nat.add_right_comm]
    · rfl

section Spans

variable {r : Rule} {inner : List Char → List Token} {text : List Char}

/-- A cut text has the spans of the text before a match, then the match, then those of the text
after it. -/
theorem spansOf_cutAt_of_some (hr : r.Plain) (hinner : ∀ part, contents (inner part) = part)
    {cursor : Nat} {span : Span} (hc : cursor ≤ text.length)
    (hselect : r.select (text.drop cursor) = some span) :
    spansOf r.tag cursor (cutAt r.tag inner text cursor (r.matchesFrom text cursor)) =
      spansOf r.tag cursor (inner ((text.drop cursor).take span.start)) ++
        ⟨span.start + cursor, span.stop + cursor⟩ ::
          spansOf r.tag (span.stop + cursor)
            (cutAt r.tag inner text (span.stop + cursor) (r.matchesFrom text (span.stop + cursor))) := by
  have hlt := hr.neverEmpty _ _ hselect
  have hle := Rule.select_stop_le hselect
  rw [List.length_drop] at hle
  have hstart : cursor + ((text.drop cursor).take span.start).length = span.start + cursor := by
    rw [List.length_take, List.length_drop]
    omega
  have hstop : span.start + cursor + (Span.of ⟨span.start + cursor, span.stop + cursor⟩ text).length =
      span.stop + cursor := by
    simp only [Span.of, List.length_take, List.length_drop]
    omega
  have htag : (Token.single (Span.of ⟨span.start + cursor, span.stop + cursor⟩ text) r.tag).hasTag
      r.tag = true := by
    simp [Token.hasTag, Token.single]
  rw [hr.matchesFrom_of_some hc hselect, cutAt, Span.of_add_self, spansOf_append, hinner, hstart,
    spansOf, htag, if_pos rfl]
  simp only [Token.single, hstop]

/-- Every match of the rule that cuts a text is the span of a token. -/
theorem sublist_spansOf_cutAt (hr : r.Plain) (hinner : ∀ part, contents (inner part) = part) :
    ∀ cursor, cursor ≤ text.length → (r.matchesFrom text cursor).Sublist
      (spansOf r.tag cursor (cutAt r.tag inner text cursor (r.matchesFrom text cursor))) := by
  refine hr.matches_induction ?_ ?_
  · intro cursor _ hselect
    rw [hr.matchesFrom_of_none hselect]
    exact List.nil_sublist _
  · intro cursor span hc hselect _ hafter
    rw [spansOf_cutAt_of_some hr hinner hc hselect, hr.matchesFrom_of_some hc hselect]
    exact (hafter.cons_cons _).trans (List.sublist_append_right _ _)

/-- If no other token has its tag, the matches are all the spans. -/
theorem spansOf_cutAt (hr : r.Plain) (hinner : ∀ part, contents (inner part) = part)
    (htag : ∀ part, ∀ t ∈ inner part, t.hasTag r.tag = false) :
    ∀ cursor, cursor ≤ text.length →
      spansOf r.tag cursor (cutAt r.tag inner text cursor (r.matchesFrom text cursor)) =
        r.matchesFrom text cursor := by
  refine hr.matches_induction ?_ ?_
  · intro cursor _ hselect
    rw [hr.matchesFrom_of_none hselect, cutAt]
    exact spansOf_eq_nil (htag _)
  · intro cursor span hc hselect _ hafter
    rw [spansOf_cutAt_of_some hr hinner hc hselect, hafter, spansOf_eq_nil (htag _),
      hr.matchesFrom_of_some hc hselect, List.nil_append]

/-- The spans between spans, from a cursor up to the end of a text. -/
def gaps (stop : Nat) : (cursor : Nat) → List Span → List Span
  | cursor, [] => [⟨cursor, stop⟩]
  | cursor, span :: spans => ⟨cursor, span.start⟩ :: gaps stop span.stop spans

/-- **The spans of a cut text** are the matches, and those of the text in the gaps between them. -/
theorem mem_spansOf_cutAt (hr : r.Plain) (hinner : ∀ part, contents (inner part) = part) (span : Span) :
    ∀ cursor, cursor ≤ text.length →
      (span ∈ spansOf r.tag cursor (cutAt r.tag inner text cursor (r.matchesFrom text cursor)) ↔
        span ∈ r.matchesFrom text cursor ∨
        ∃ gap ∈ gaps text.length cursor (r.matchesFrom text cursor),
          span ∈ spansOf r.tag gap.start (inner (gap.of text))) := by
  refine hr.matches_induction ?_ ?_
  · intro cursor _ hselect
    have hall : Span.of ⟨cursor, text.length⟩ text = text.drop cursor := by
      rw [Span.of, ← List.length_drop, List.take_length]
    rw [hr.matchesFrom_of_none hselect, cutAt, gaps]
    simp [hall]
  · intro cursor found hc hselect _ hafter
    rw [spansOf_cutAt_of_some hr hinner hc hselect, hr.matchesFrom_of_some hc hselect, gaps,
      List.mem_append, List.mem_cons, hafter]
    simp only [List.mem_cons, exists_eq_or_imp, Span.of_add_self]
    exact (or_congr_right or_assoc.symm).trans or_left_comm

end Spans

/-! ## Priority beats position -/

/-- **Steps by plain rules split a text in layers.**  Every match of the first rule, anywhere in the
text, is a token, and where no other rule has its tag these are all the tokens with the tag. -/
theorem splitSteps_eq_layered {rules : List Rule} (hplain : ∀ r ∈ rules, r.Plain) (source : List Char) :
    splitSteps source rules 0 = .ok (layered rules source) ∧
    ∀ r rest, rules = r :: rest →
      (r.matchesFrom source 0).Sublist (spansOf r.tag 0 (layered rules source)) ∧
      (r.tag ∉ rest.map (·.tag) → r.tag ≠ "whitespace" → r.tag ≠ "ind" →
        spansOf r.tag 0 (layered rules source) = r.matchesFrom source 0) := by
  refine ⟨?_, ?_⟩
  · rw [(splitSteps_alike rules source 0).ok_iff]
    exact splitRec_eq_layered rules [] source hplain fun r hr => absurd hr List.not_mem_nil
  · rintro r rest rfl
    have hr : r.Plain := hplain r List.mem_cons_self
    have hrest : ∀ part, splitRec rest part = .ok (layered rest part) := fun part =>
      splitRec_eq_layered rest [] part (fun r' h => hplain r' (List.mem_cons_of_mem r h))
        fun r' h => absurd h List.not_mem_nil
    have hcontents : ∀ part, contents (layered rest part) = part :=
      fun part => contents_splitRec (hrest part)
    refine ⟨sublist_spansOf_cutAt hr hcontents 0 (Nat.zero_le _), fun htag hblank hind => ?_⟩
    refine spansOf_cutAt hr hcontents (fun part t ht => ?_) 0 (Nat.zero_le _)
    obtain ⟨_, tag, htags, hmem⟩ := isRaw_of_splitRec (hrest part) t ht
    -- a token of the pieces has the tag of one of the other rules
    have hne : tag ≠ r.tag := by
      rintro rfl
      rcases hmem with hmem | hmem | hmem
      · exact htag hmem
      · exact hblank hmem
      · exact hind hmem
    rw [Token.hasTag, htags]
    simpa using hne.symm

/-- Strings come before numbers: the digit in the string is part of it, the one before it is a
number. -/
theorem splitSteps_eq_layered_string :
    (∀ r ∈ [Literal.string, Literal.integer], r.Plain) ∧
    splitSteps ['1', ' ', '"', '2', '"'] [Literal.string, Literal.integer] 0 =
      .ok [.single ['1'] "number", .single [' '] "whitespace", .single ['"', '2', '"'] "string"] ∧
    spansOf "string" 0 (layered [Literal.string, Literal.integer] ['1', ' ', '"', '2', '"']) =
      [⟨2, 5⟩] := by
  have hplain : ∀ r ∈ [Literal.string, Literal.integer], r.Plain := by
    intro r hr
    rcases List.mem_cons.mp hr with rfl | hr
    · exact ⟨rfl, rfl, rfl⟩
    · obtain rfl := List.mem_singleton.mp hr
      exact ⟨rfl, rfl, rfl⟩
  have hlayers : layered [Literal.string, Literal.integer] ['1', ' ', '"', '2', '"'] =
      [.single ['1'] "number", .single [' '] "whitespace", .single ['"', '2', '"'] "string"] := by
    decide +kernel
  have hmatches : Literal.string.matchesFrom ['1', ' ', '"', '2', '"'] 0 = [⟨2, 5⟩] := by
    decide +kernel
  obtain ⟨hsteps, hfirst⟩ := splitSteps_eq_layered hplain ['1', ' ', '"', '2', '"']
  obtain ⟨_, hspans⟩ := hfirst Literal.string [Literal.integer] rfl
  refine ⟨hplain, hsteps.trans (congrArg _ hlayers), ?_⟩
  exact (hspans (by decide) (by decide) (by decide)).trans hmatches

/-- A rule with an atomic group: `ab` if it comes, and then `a` or `c`. -/
def Rule.atomic : Rule where
  tag := "atomic"
  text := "(?>(?:ab)?)(?:a|c)"
  pattern := .seq (.atomic (.optional (.word ['a', 'b']))) (.alt (.char 'a') (.char 'c'))
  reads := Pattern.ofText_of_isDenotedBy (by decide +kernel)
  nonempty := by decide

/-- **Atomic groups do not split a text in layers.**  In the whole text the group takes `ab`, after which
neither `a` nor `c` comes, so that the first rule matches nowhere; once the second rule has cut the text
at `b`, the group takes nothing and the rule matches `a`.  Neither rule is anchored, has a group or
looks around. -/
theorem splitSteps_ne_layered_atomic :
    (∀ r ∈ [Rule.atomic, .letter], r.anchored = false ∧ r.pattern.captures = false) ∧
    splitSteps ['a', 'b', 'd'] [.atomic, .letter] 0 =
      .ok [.single ['a'] "atomic", .single ['b'] "b", .single ['d'] "ind"] ∧
    layered [.atomic, .letter] ['a', 'b', 'd'] =
      [.single ['a'] "ind", .single ['b'] "b", .single ['d'] "ind"] ∧
    splitSteps ['a', 'b', 'd'] [.atomic, .letter] 0 ≠ .ok (layered [.atomic, .letter] ['a', 'b', 'd']) := by
  have hsteps : splitSteps ['a', 'b', 'd'] [.atomic, .letter] 0 =
      .ok [.single ['a'] "atomic", .single ['b'] "b", .single ['d'] "ind"] :=
    Except.toOption_eq_some.mp (by decide +kernel)
  have hlayers : layered [.atomic, .letter] ['a', 'b', 'd'] =
      [.single ['a'] "ind", .single ['b'] "b", .single ['d'] "ind"] := by
    decide +kernel
  have hrules : ∀ r ∈ [Rule.atomic, .letter], r.anchored = false ∧ r.pattern.captures = false := by
    intro r hr
    rcases List.mem_cons.mp hr with rfl | hr
    · exact ⟨rfl, rfl⟩
    · obtain rfl := List.mem_singleton.mp hr
      exact ⟨rfl, rfl⟩
  refine ⟨hrules, hsteps, hlayers, fun h => ?_⟩
  rw [hsteps, hlayers] at h
  exact absurd (Except.ok.inj h) (by decide)

end Highlight
