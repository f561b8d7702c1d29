import Highlight.Proofs.Grammar.Tokens
import Highlight.Proofs.Split.Layers
import Highlight.Proofs.Split.Provenance
import Mathlib.Data.List.TakeWhile

/-!
# Text that no rule matches

What the rules of a table leave is split by the two rules that end every table: into runs of white space
and other characters one by one.  No run is cut in two, wherever the parts lie that the text is split in
(`isChain_apart`):

* white space is selected at the start of its part only, so it is never what a part is cut at, and the
  token that ends the text before a selection is followed by a token of a rule of the table;
* the selection takes all the white space that comes next, so what the rest of its part starts with is no
  white space.

This holds of tokens seen without their further tags, and so of every grammar that adds other tags
(`rawTokens_unmatched`).  A run of white space in the source that no token of a rule lies in is then one
token (`Unmatched.exists_token`).
-/

namespace Highlight

open Text

/-! ## White space in split texts -/

section Split

variable {rules : List Rule} {text : List Char} {ts : List Token}

/-- White space is selected at the start of a text, and all of it that comes next. -/
theorem Token.FirstIn.takeWhile_blank {span : Span} {t : Token} (h : t.FirstIn rules text span)
    (htag : t.tags = ["whitespace"]) (hrules : ∀ r ∈ rules, r.tag ≠ "whitespace") :
    span = ⟨0, (text.takeWhile isAsciiBlank).length⟩ ∧ t.content = text.takeWhile isAsciiBlank ∧
      t.content ≠ [] := by
  obtain ⟨r, hr, hselect, hcontent, htags⟩ := h.exists_rule
  have hwhite : r.tag = "whitespace" := by simpa [htag] using htags.symm
  have hblanks : r = Rule.blanks := by
    rcases List.mem_append.mp hr with hr | hr
    · exact absurd hwhite (hrules r hr)
    · rcases List.mem_cons.mp hr with rfl | hr
      · rfl
      · obtain rfl := List.mem_singleton.mp hr
        exact absurd hwhite (by decide)
  subst hblanks
  rw [Rule.select_blanks] at hselect
  split at hselect
  · cases hselect
  · next hne =>
    obtain rfl := Option.some.inj hselect
    have hall : t.content = text.takeWhile isAsciiBlank := by
      rw [hcontent, Span.of, List.drop_zero, Nat.sub_zero, take_length_takeWhile]
    exact ⟨rfl, hall, hall ▸ hne⟩

/-- **No run of white space is cut in two.** -/
theorem isChain_apart (hrules : ∀ r ∈ rules, r.tag ≠ "whitespace") (h : splitRec rules text = .ok ts) :
    ts.IsChain fun t u => ¬ (t.tags = ["whitespace"] ∧ u.tags = ["whitespace"]) := by
  refine isChain_splitRec ?_ ?_ h
  · rintro text span before t u hin hbefore hlast ⟨-, hu⟩
    -- there is nothing before white space
    obtain ⟨rfl, -, -⟩ := hin.takeWhile_blank hu hrules
    rw [List.take_zero, splitRec_nil] at hbefore
    obtain rfl := Except.ok.inj hbefore
    exact absurd hlast (by simp)
  · rintro text span after t u hin hafter hhead ⟨ht, hu⟩
    obtain ⟨rfl, -, -⟩ := hin.takeWhile_blank ht hrules
    rw [drop_length_takeWhile] at hafter
    obtain ⟨part, stop, -, hfirst⟩ := exists_firstIn_of_head? hafter u hhead
    obtain ⟨-, hcontent, hne⟩ := hfirst.takeWhile_blank hu hrules
    -- the first character of the token is white space, and not the first one of the rest
    obtain ⟨c, hc⟩ := Option.ne_none_iff_exists'.mp (mt List.head?_eq_none_iff.mp hne)
    have hblank : isAsciiBlank c = true :=
      List.mem_takeWhile_imp (hcontent ▸ List.mem_of_head? hc)
    have hnot := List.head?_dropWhile_not isAsciiBlank text
    rw [← head?_of_splitRec hafter hhead, hc] at hnot
    exact absurd hblank (by simpa using hnot)

end Split

/-! ## Tokens that no rule of a table gives -/

/-- What the two rules that end every table make of the text that is left to them. -/
structure Unmatched (ts : List Token) : Prop where
  /-- A token of white space is a run of it that is not empty. -/
  blank : ∀ t ∈ ts, t.hasTag "whitespace" = true →
    t.content ≠ [] ∧ ∀ c ∈ t.content, isAsciiBlank c = true
  /-- Any other token that no rule of the table gives is one character. -/
  other : ∀ t ∈ ts, t.hasTag "ind" = true → ∃ c, t.content = [c] ∧ isAsciiBlank c = false
  /-- Two runs of white space are never next to each other. -/
  apart : ts.IsChain fun t u => ¬ (t.hasTag "whitespace" = true ∧ u.hasTag "whitespace" = true)

/-- What of a token says that no rule of a table has given it. -/
def Token.unmatched (t : Token) : List Char × Bool × Bool :=
  (t.content, t.hasTag "whitespace", t.hasTag "ind")

/-- The tags that the bases add are none of the two. -/
theorem BaseGrammar.keeps_unmatched (b : BaseGrammar) : b.retag.Keeps Token.unmatched := by
  refine b.keeps_retag fun tag htag t => ?_
  have hwhite : "whitespace" ≠ tag := by rintro rfl; exact absurd htag (by decide)
  have hind : "ind" ≠ tag := by rintro rfl; exact absurd htag (by decide)
  rw [Token.unmatched, Token.unmatched, Token.content_addTag, Token.hasTag_addTag_of_ne hwhite,
    Token.hasTag_addTag_of_ne hind]

/-- Whether text is unmatched is seen without the other tags. -/
theorem Unmatched.of_map {ts us : List Token} (h : Unmatched ts)
    (hmap : us.map Token.unmatched = ts.map Token.unmatched) : Unmatched us := by
  have hmem : ∀ u ∈ us, ∃ t ∈ ts, t.unmatched = u.unmatched := fun u hu =>
    List.mem_map.mp (hmap ▸ List.mem_map_of_mem hu)
  refine ⟨fun u hu hwhite => ?_, fun u hu hind => ?_, ?_⟩
  · obtain ⟨t, ht, hsame⟩ := hmem u hu
    obtain ⟨hcontent, htag, -⟩ := by simpa only [Token.unmatched, Prod.mk.injEq] using hsame
    exact hcontent ▸ h.blank t ht (htag.trans hwhite)
  · obtain ⟨t, ht, hsame⟩ := hmem u hu
    obtain ⟨hcontent, -, htag⟩ := by simpa only [Token.unmatched, Prod.mk.injEq] using hsame
    exact hcontent ▸ h.other t ht (htag.trans hind)
  · have hchain : (ts.map Token.unmatched).IsChain fun v w => ¬ (v.2.1 = true ∧ w.2.1 = true) :=
      (List.isChain_map _).mpr h.apart
    rw [← hmap] at hchain
    exact (List.isChain_map _).mp hchain

/-- What a table makes of a text, if no rule of it gives one of the two tags itself. -/
theorem unmatched_of_splitRec {rules : List Rule} {text : List Char} {ts : List Token}
    (hrules : ∀ r ∈ rules, r.tag ≠ "whitespace" ∧ r.tag ≠ "ind") (h : splitRec rules text = .ok ts) :
    Unmatched ts := by
  have htags : ∀ t ∈ ts, ∀ tag, t.hasTag tag = true → t.tags = [tag] := by
    intro t ht tag htag
    obtain ⟨-, own, hown, -⟩ := isRaw_of_splitRec h t ht
    rw [Token.hasTag, hown, List.contains_iff_mem, List.mem_singleton] at htag
    rw [hown, htag]
  refine ⟨fun t ht hwhite => ?_, fun t ht hind => ?_, ?_⟩
  · obtain ⟨part, span, -, hin⟩ := exists_firstIn_of_mem h t ht
    obtain ⟨-, hcontent, hne⟩ :=
      hin.takeWhile_blank (htags t ht _ hwhite) fun r hr => (hrules r hr).1
    exact ⟨hne, fun c hc => List.mem_takeWhile_imp (hcontent ▸ hc)⟩
  · obtain ⟨part, span, -, hin⟩ := exists_firstIn_of_mem h t ht
    obtain ⟨c, hcontent, hblank, -⟩ := hin.exists_char (htags t ht _ hind) fun r hr => (hrules r hr).2
    exact ⟨c, hcontent, hblank⟩
  · refine (isChain_apart (fun r hr => (hrules r hr).1) h).imp_of_mem_imp fun t u ht hu hapart hboth => ?_
    exact hapart ⟨htags t ht _ hboth.1, htags u hu _ hboth.2⟩

/-- **The raw tokens of a grammar that steps by a table** are as the table leaves them. -/
theorem rawTokens_unmatched {g : Grammar} {b : BaseGrammar} {source : List Char} {rules : List Rule}
    {keywords : Option (List String)} {ts : List Token} (hstep : g.step = b.grammar.step)
    (hsetUp : g.setUp { source } = .ok { source, rules, keywords })
    (hrules : ∀ r ∈ rules, r.tag ≠ "whitespace" ∧ r.tag ≠ "ind") (h : rawTokens g source = .ok ts) :
    Unmatched ts ∧ contents ts = source ∧ ∀ t ∈ ts, t.content ≠ [] := by
  have hraw := rawTokens_keeps (hstep.trans b.step_eq) b.keeps_unmatched hsetUp
  rw [h] at hraw
  obtain ⟨us, hsteps, hmap⟩ := Except.map_eq_ok.mp hraw.symm
  have hsplit : splitRec rules source = .ok us := ((splitSteps_alike rules source 0).ok_iff us).mp hsteps
  have hcontents : ts.map (·.content) = us.map (·.content) := by
    have hfst := congrArg (List.map Prod.fst) hmap
    rw [List.map_map, List.map_map] at hfst
    exact hfst.symm
  refine ⟨(unmatched_of_splitRec hrules hsplit).of_map hmap.symm, ?_, fun t ht => ?_⟩
  · rw [contents_eq_flatten, hcontents, ← contents_eq_flatten, contents_splitRec hsplit]
  · have hmem : t.content ∈ us.map (·.content) := hcontents ▸ List.mem_map_of_mem ht
    obtain ⟨u, hu, hcontent⟩ := List.mem_map.mp hmem
    exact hcontent ▸ (isRaw_of_splitRec hsplit u hu).1

/-! ## Runs of white space in the source -/

/-- A run of white space in a text, as long as it can be. -/
structure BlankRun (text before run after : List Char) : Prop where
  split : text = before ++ run ++ after
  ne_nil : run ≠ []
  blank : ∀ c ∈ run, isAsciiBlank c = true
  left : ∀ c, before.getLast? = some c → isAsciiBlank c = false
  right : ∀ c, after.head? = some c → isAsciiBlank c = false

/-- No token of a rule lies in the characters from `start` to `stop`. -/
def Untouched (ts : List Token) (start stop : Nat) : Prop :=
  ∀ (i : Nat) (h : i < ts.length), (contents (ts.take i)).length < stop →
    start < (contents (ts.take i)).length + ts[i].content.length →
    ts[i].hasTag "whitespace" = true ∨ ts[i].hasTag "ind" = true

theorem Untouched.hasTag {ts l r : List Token} {t : Token} {start stop : Nat}
    (h : Untouched ts start stop) (hts : ts = l ++ t :: r) (hstop : (contents l).length < stop)
    (hstart : start < (contents l).length + t.content.length) :
    t.hasTag "whitespace" = true ∨ t.hasTag "ind" = true := by
  subst hts
  have hlt : l.length < (l ++ t :: r).length := by simp
  simpa [hstop, hstart] using h l.length hlt

section Run

variable {ts : List Token} {before run after : List Char}

/-- An unmatched token in which there is white space is a run of it. -/
theorem Unmatched.whitespace_of_blank (h : Unmatched ts) {t : Token} (ht : t ∈ ts)
    (htag : t.hasTag "whitespace" = true ∨ t.hasTag "ind" = true) {c : Char} (hc : c ∈ t.content)
    (hblank : isAsciiBlank c = true) : t.hasTag "whitespace" = true := by
  rcases htag with hwhite | hind
  · exact hwhite
  · obtain ⟨d, hcontent, hnot⟩ := h.other t ht hind
    rw [hcontent, List.mem_singleton] at hc
    rw [hc, hnot] at hblank
    exact absurd hblank (by decide)

/-- There is no white space in an unmatched token after one of white space. -/
theorem Unmatched.not_blank_after (h : Unmatched ts) {l r : List Token} {t u : Token}
    (hts : ts = l ++ t :: u :: r) (ht : t.hasTag "whitespace" = true)
    (htag : u.hasTag "whitespace" = true ∨ u.hasTag "ind" = true) {c : Char} (hc : c ∈ u.content) :
    isAsciiBlank c = false := by
  have hu : u ∈ ts := hts ▸ List.mem_append_right l (List.mem_cons_of_mem t List.mem_cons_self)
  refine Bool.eq_false_iff.mpr fun hblank => ?_
  have hapart := h.apart
  rw [hts] at hapart
  have hpair := (List.isChain_append.mp hapart).2.1
  exact (List.isChain_cons_cons.mp hpair).1 ⟨ht, h.whitespace_of_blank hu htag hc hblank⟩

/-- A run that no token of a rule lies in does not go on after a token of white space. -/
theorem Unmatched.not_blank_head (h : Unmatched ts) (hne : ∀ t ∈ ts, t.content ≠ [])
    {l r : List Token} {t : Token} (hts : ts = l ++ t :: r) (ht : t.hasTag "whitespace" = true)
    {start stop : Nat} (hfree : Untouched ts start stop)
    (hstart : start ≤ (contents l).length + t.content.length)
    (hstop : (contents l).length + t.content.length < stop) {c : Char}
    (hc : (contents r).head? = some c) : isAsciiBlank c = false := by
  cases r with
  | nil => exact absurd hc (by simp [contents])
  | cons u r =>
    have hu : u ∈ ts := hts ▸ List.mem_append_right l (List.mem_cons_of_mem t List.mem_cons_self)
    obtain ⟨d, rest, hcontent⟩ := List.exists_cons_of_ne_nil (hne u hu)
    obtain rfl : d = c := by
      rw [contents_cons, hcontent] at hc
      exact Option.some.inj hc
    have hend : (contents (l ++ [t])).length = (contents l).length + t.content.length := by
      simp [contents]
    have htag : u.hasTag "whitespace" = true ∨ u.hasTag "ind" = true := by
      refine hfree.hasTag (l := l ++ [t]) (by rw [hts, List.append_assoc]; rfl) (by omega) ?_
      rw [hend, hcontent, List.length_cons]
      omega
    exact h.not_blank_after hts ht htag (hcontent ▸ List.mem_cons_self)

/-- A token of white space starts a run that it reaches into. -/
theorem BlankRun.eq_before (hrun : BlankRun (contents ts) before run after) {l r : List Token} {t : Token}
    (hts : ts = l ++ t :: r) (hblank : ∀ c ∈ t.content, isAsciiBlank c = true)
    (hle : (contents l).length ≤ before.length)
    (hlt : before.length < (contents l).length + t.content.length) :
    contents l = before ∧ t.content ++ contents r = run ++ after := by
  have htext : contents l ++ (t.content ++ contents r) = before ++ (run ++ after) := by
    rw [← List.append_assoc before, ← hrun.split, hts, contents_append, contents_cons]
  obtain ⟨x, rfl⟩ : contents l <+: before :=
    List.prefix_of_prefix_length_le ⟨_, htext⟩ (List.prefix_append _ _) hle
  have hx : t.content ++ contents r = x ++ (run ++ after) := by
    rw [List.append_assoc] at htext
    exact List.append_cancel_left htext
  suffices hnil : x = [] by
    subst hnil
    exact ⟨(List.append_nil _).symm, hx⟩
  -- else the token would have the white space before the run as well
  cases hlast : x.getLast? with
  | none => exact List.getLast?_eq_none_iff.mp hlast
  | some c =>
    have hstarts : x <+: t.content := by
      refine List.prefix_of_prefix_length_le ⟨_, hx.symm⟩ (List.prefix_append _ _) ?_
      rw [List.length_append] at hlt
      omega
    have hnot := hrun.left c (by rw [List.getLast?_append, hlast, Option.some_or])
    rw [hblank c (hstarts.subset (List.mem_of_getLast? hlast))] at hnot
    exact absurd hnot (by decide)

/-- **A run of white space that no token of a rule lies in is one token.** -/
theorem Unmatched.exists_token (h : Unmatched ts) (hne : ∀ t ∈ ts, t.content ≠ [])
    (hrun : BlankRun (contents ts) before run after)
    (hfree : Untouched ts before.length (before.length + run.length)) :
    ∃ l t r, ts = l ++ t :: r ∧ contents l = before ∧ t.content = run ∧
      t.hasTag "whitespace" = true := by
  obtain ⟨c, rest, hcons⟩ := List.exists_cons_of_ne_nil hrun.ne_nil
  have hcblank : isAsciiBlank c = true := hrun.blank c (hcons ▸ List.mem_cons_self)
  have hlength : run.length = rest.length + 1 := by rw [hcons, List.length_cons]
  -- the token in which the run starts
  have hat : (contents ts)[before.length]? = some c := by
    rw [hrun.split, hcons, List.append_assoc, List.getElem?_append_right (Nat.le_refl _),
      Nat.sub_self]
    rfl
  obtain ⟨l, t, r, hts, hle, hlt, hc⟩ := exists_token_at hat
  have ht : t ∈ ts := hts ▸ List.mem_append_right l List.mem_cons_self
  have hwhite := h.whitespace_of_blank ht (hfree.hasTag hts (by omega) hlt) hc hcblank
  obtain ⟨-, hblank⟩ := h.blank t ht hwhite
  obtain ⟨hbefore, hrest⟩ := hrun.eq_before hts hblank hle hlt
  refine ⟨l, t, r, hts, hbefore, ?_, hwhite⟩
  rcases List.append_eq_append_iff.mp hrest with ⟨z, hz, hr⟩ | ⟨z, hz, hafter⟩
  · cases z with
    | nil => rw [hz, List.append_nil]
    | cons d z =>
      -- the run goes on in the next token, in which there is no white space
      have hlen : run.length = t.content.length + (z.length + 1) := by
        rw [hz, List.length_append, List.length_cons]
      have hnot := h.not_blank_head hne hts hwhite hfree (by rw [hbefore]; omega)
        (by rw [hbefore]; omega) (by rw [hr]; rfl)
      rw [hrun.blank d (hz ▸ List.mem_append_right _ List.mem_cons_self)] at hnot
      exact absurd hnot (by decide)
  · cases z with
    | nil => rw [hz, List.append_nil]
    | cons d z =>
      -- the character after the run is no white space
      exfalso
      have hnot := hrun.right d (by rw [hafter]; rfl)
      rw [hblank d (hz ▸ List.mem_append_right _ List.mem_cons_self)] at hnot
      exact absurd hnot (by decide)

end Run

/-- **Unmatched text falls into runs of white space and single characters.**  If no rule of its table
has one of the two tags of the rules that end every table, then of the raw tokens of a grammar

* each of white space is a run of it that is not empty, and any other that no rule has given is one
  character that is no white space;
* no two of white space are next to each other;
* each run of white space in the source that no token of a rule lies in is one. -/
theorem unmatched_shape (g : Grammar) (b : BaseGrammar) (source : List Char) (rules : List Rule)
    (keywords : Option (List String)) (ts : List Token) (hstep : g.step = b.grammar.step)
    (hsetUp : g.setUp { source } = .ok { source, rules, keywords })
    (hrules : ∀ r ∈ rules, r.tag ≠ "whitespace" ∧ r.tag ≠ "ind")
    (htokens : tokenize g source false = .ok ts) :
    Unmatched ts ∧ ∀ before run after, BlankRun source before run after →
      Untouched ts before.length (before.length + run.length) →
      ∃ l t r, ts = l ++ t :: r ∧ contents l = before ∧ t.content = run ∧
        t.hasTag "whitespace" = true := by
  obtain ⟨raw, hraw, rfl⟩ := Except.map_eq_ok.mp htokens
  obtain ⟨hunmatched, hcontents, hne⟩ := rawTokens_unmatched hstep hsetUp hrules hraw
  refine ⟨hunmatched, fun before run after hrun hfree => ?_⟩
  exact hunmatched.exists_token hne (hcontents.symm ▸ hrun) hfree

/-- A grammar with a rule whose group lies ahead of what its pattern goes through. -/
def Grammar.groupAhead : Grammar :=
  .ofTable "ahead" (fun s => .ok { s with rules := [.groupAhead] }) Json.retag

/-- The parts of a text that lie between two such groups hold white space of their own, and what is
between the groups is one run of it. -/
theorem unmatched_shape_groupAhead :
    ∃ ts, tokenize .groupAhead ['\t', ' ', 'a', 'b', 'c', ' ', '\n', 'a', 'b', 'c'] false = .ok ts ∧
      Unmatched ts ∧ ∃ l t r, ts = l ++ t :: r ∧ contents l = ['\t', ' ', 'a', 'b', 'c'] ∧
        t.content = [' ', '\n'] ∧ t.hasTag "whitespace" = true := by
  have htokens : tokenize .groupAhead ['\t', ' ', 'a', 'b', 'c', ' ', '\n', 'a', 'b', 'c'] false =
      .ok [.single ['\t', ' '] "whitespace", .single ['a'] "ind", .single ['b'] "ind",
        .single ['c'] "ahead", .single [' ', '\n'] "whitespace", .single ['a'] "ind",
        .single ['b'] "ind", .single ['c'] "ahead"] :=
    Except.toOption_eq_some.mp (by decide +kernel)
  obtain ⟨hunmatched, hruns⟩ :=
    unmatched_shape .groupAhead .json _ [.groupAhead] none _ rfl rfl (by decide) htokens
  have hrun : BlankRun ['\t', ' ', 'a', 'b', 'c', ' ', '\n', 'a', 'b', 'c']
      ['\t', ' ', 'a', 'b', 'c'] [' ', '\n'] ['a', 'b', 'c'] :=
    ⟨rfl, by decide, List.all_eq_true.mp rfl, by rintro c ⟨⟩; decide, by rintro c ⟨⟩; decide⟩
  exact ⟨_, htokens, hunmatched, hruns _ _ _ hrun (by unfold Untouched; decide)⟩

end Highlight
