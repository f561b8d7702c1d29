import Highlight.Grammar.Custom
import Highlight.Proofs.Split.Coverage

/-!
# Tokenizing is stepping through the text

A grammar that steps by its table takes the steps of `splitSteps` and adds tags.  What is kept as
batches are joined is known of a whole run (`run_joins`), and so is what adding tags does not change
(`run_keeps`).  The three ways to add tags that the library knows change nothing that the tags they add
do not matter for (`keeps_retag`), and so no content: the contents of the tokens are those of the split
text, and the run fails where the splitting fails (`rawTokens_eq`).

From this and from the coverage of a split text it follows that tokens make up their source, whether
runs are merged or not (`Grammar.ByTable.contents_tokenize`).  A table whose rules select no empty
span gives tokens for every text (`Grammar.ByTable.exists_tokenize`).
-/

namespace Highlight

/-! ## Adding tags -/

/-- Adding tags changes no content. -/
def Retagging.KeepsContents (retag : Retagging) : Prop :=
  ∀ s batch, (retag s batch).1.map (·.content) = batch.map (·.content)

/-- Adding tags changes nothing of what `view` sees, neither of the batch nor of the token before it. -/
structure Retagging.Keeps {β : Type} (retag : Retagging) (view : Token → β) : Prop where
  batch : ∀ s batch, (retag s batch).1.map view = batch.map view
  back : ∀ s batch t, view (t.addTags (retag s batch).2) = view t

theorem Retagging.KeepsContents.keeps {retag : Retagging} (h : retag.KeepsContents) :
    retag.Keeps (·.content) :=
  ⟨h, fun _ _ t => t.content_addTags _⟩

section View

variable {β : Type} (view : Token → β)

/-- What is seen of a token stays, if it stays when the tag is added. -/
theorem Token.view_ite_addTag {tag : String} (h : ∀ t : Token, view (t.addTag tag) = view t) (c : Prop)
    [Decidable c] (t : Token) : view (if c then t.addTag tag else t) = view t := by
  split
  · exact h t
  · rfl

/-- What is seen of the tokens of JSON data stays, if the two tags that are added do not matter. -/
theorem Json.map_retagBatch (hnull : ∀ t : Token, view (t.addTag "null") = view t)
    (hindex : ∀ t : Token, view (t.addTag "index") = view t) : ∀ batch : List Token,
    (retagBatch batch).map view = batch.map view
  | [] => rfl
  | [t] => by
    rw [retagBatch, List.map_singleton, List.map_singleton]
    exact congrArg ([·]) (Token.view_ite_addTag view hnull _ t)
  | t :: u :: rest => by
    have hview : view (if isKey t u then (tagNull t).addTag "index" else tagNull t) = view t :=
      (Token.view_ite_addTag view hindex _ _).trans (Token.view_ite_addTag view hnull _ t)
    rw [retagBatch, List.map_cons, map_retagBatch hnull hindex (u :: rest), hview]
    rfl

/-- The same for the tokens of Lua. -/
theorem Lua.view_tagWord (hconstant : ∀ t : Token, view (t.addTag "constant") = view t)
    (hkeyword : ∀ t : Token, view (t.addTag "keyword") = view t) (words : List String) (t : Token) :
    view (tagWord words t) = view t :=
  (Token.view_ite_addTag view hkeyword _ _).trans (Token.view_ite_addTag view hconstant _ t)

end View

theorem Token.content_ite_addTag (c : Prop) [Decidable c] (t : Token) (tag : String) :
    (if c then t.addTag tag else t).content = t.content :=
  view_ite_addTag (·.content) (fun t => content_addTag t tag) c t

theorem Json.content_tagNull (t : Token) : (tagNull t).content = t.content :=
  Token.content_ite_addTag _ t "null"

theorem Json.contents_retagBatch (batch : List Token) :
    (retagBatch batch).map (·.content) = batch.map (·.content) :=
  map_retagBatch (·.content) (fun _ => rfl) (fun _ => rfl) batch

theorem Lua.content_tagWord (words : List String) (t : Token) : (tagWord words t).content = t.content :=
  view_tagWord (·.content) (fun _ => rfl) (fun _ => rfl) words t

/-- The way of a base to add tags. -/
def BaseGrammar.retag : BaseGrammar → Retagging
  | .plain => fun _ batch => (batch, [])
  | .json => Json.retag
  | .lua => Lua.retag

theorem BaseGrammar.step_eq (b : BaseGrammar) : b.grammar.step = LexerState.tableStep b.retag := by
  cases b <;> rfl

/-- The tags that the bases add. -/
def BaseGrammar.addedTags : List String := ["constant", "keyword", "null", "index"]

/-- The bases change nothing that the tags they add do not matter for. -/
theorem BaseGrammar.keeps_retag {β : Type} {view : Token → β}
    (h : ∀ tag ∈ addedTags, ∀ t : Token, view (t.addTag tag) = view t) (b : BaseGrammar) :
    b.retag.Keeps view := by
  simp only [addedTags, List.forall_mem_cons] at h
  obtain ⟨hconstant, hkeyword, hnull, hindex, -⟩ := h
  cases b with
  | plain => exact ⟨fun _ _ => rfl, fun _ _ _ => rfl⟩
  | json =>
    refine ⟨fun s batch => Json.map_retagBatch view hnull hindex batch, fun s batch t => ?_⟩
    show view (t.addTags (Json.retag s batch).2) = view t
    unfold Json.retag
    dsimp only
    split
    · split
      · exact hindex t
      · rfl
    · rfl
  | lua =>
    refine ⟨fun s batch => ?_, fun _ _ _ => rfl⟩
    show (batch.map (Lua.tagWord _)).map view = batch.map view
    rw [List.map_map]
    exact List.map_congr_left fun t _ => Lua.view_tagWord view hconstant hkeyword _ t

theorem BaseGrammar.keepsContents_retag (b : BaseGrammar) : b.retag.KeepsContents := by
  have hkeeps : b.retag.Keeps (·.content) := b.keeps_retag fun _ _ _ => rfl
  exact hkeeps.batch

theorem map_modifyLast {α β : Type} {f : α → α} {g : α → β} (h : ∀ a, g (f a) = g a) :
    ∀ l : List α, (modifyLast f l).map g = l.map g
  | [] => rfl
  | [a] => by rw [modifyLast, List.map_singleton, h, List.map_singleton]
  | a :: b :: rest => by
    rw [modifyLast, List.map_cons, map_modifyLast h (b :: rest)]
    rfl

/-! ## Runs -/

/-- Batch by batch, what is seen of the tokens so far stays what `tagged` makes of the same tokens
without their tags.  It may look at the reserved words, which a run does not change. -/
def Retagging.Joins {β : Type} (retag : Retagging) (view : List Token → β)
    (tagged : Option (List String) → List Token → β) : Prop :=
  ∀ (s : LexerState) (raw batch : List Token), view s.tokens = tagged s.keywords raw →
    view (modifyLast (·.addTags (retag s batch).2) s.tokens ++ (retag s batch).1) =
      tagged s.keywords (raw ++ batch)

/-- **A run by the table of rules takes the steps through the text**: what is seen of its tokens is
made of the tokens of these steps. -/
theorem run_joins {β : Type} {g : Grammar} {retag : Retagging} {view : List Token → β}
    {tagged : Option (List String) → List Token → β} (hstep : g.step = LexerState.tableStep retag)
    (hjoins : retag.Joins view tagged) (s : LexerState) (raw : List Token)
    (hraw : view s.tokens = tagged s.keywords raw) :
    (g.run s).map view =
      (splitSteps s.source s.rules s.cursor).map fun ts => tagged s.keywords (raw ++ ts) := by
  -- on the text that is left; the tokens so far, tagged or not, stay in front
  induction hn : s.source.length - s.cursor using Nat.strongRecOn generalizing s raw with
  | ind n ih =>
    by_cases hc : s.cursor < s.source.length
    · rw [splitSteps_of_lt hc]
      cases h : splitStep s.source s.cursor s.rules with
      | error e =>
        rw [run_of_splitStep_error hstep hc h]
        rfl
      | ok step =>
        obtain ⟨batch, stop⟩ := step
        obtain ⟨hlt, hle⟩ := splitStep_advances hc h
        have hrest := ih (s.source.length - stop) (by omega)
          (s.after { cursor := stop, batch := (retag s batch).1, backTags := (retag s batch).2 })
          (raw ++ batch) (hjoins s raw batch hraw) rfl
        rw [run_of_forward hc (step_of_splitStep hstep h) (Int.ofNat_lt.mpr hlt), hrest]
        show Except.map _ (splitSteps s.source s.rules stop) =
          Except.map _ ((splitSteps s.source s.rules stop).map (batch ++ ·))
        cases splitSteps s.source s.rules stop with
        | error e => rfl
        | ok ts => simp only [Except.map, LexerState.after, List.append_assoc]
    · have hend : s.source.length ≤ s.cursor := Nat.le_of_not_lt hc
      rw [Grammar.run, if_neg hc, splitSteps_of_le hend]
      simp [Except.map, hraw]

theorem Retagging.Keeps.joins {β : Type} {retag : Retagging} {view : Token → β} (h : retag.Keeps view) :
    retag.Joins (·.map view) fun _ ts => ts.map view := by
  intro s raw batch hraw
  simp only [List.map_append, map_modifyLast (h.back s batch), h.batch s batch]
  exact congrArg (· ++ batch.map view) hraw

/-- What is seen of the tokens of a run is what is seen of those of the steps, if adding tags does not
matter for it. -/
theorem run_keeps {β : Type} {g : Grammar} {retag : Retagging} {view : Token → β}
    (hstep : g.step = LexerState.tableStep retag) (hkeeps : retag.Keeps view) (s : LexerState) :
    (g.run s).map (·.map view) =
      (splitSteps s.source s.rules s.cursor).map fun ts => (s.tokens ++ ts).map view :=
  run_joins hstep hkeeps.joins s s.tokens rfl

theorem rawTokens_keeps {β : Type} {g : Grammar} {retag : Retagging} {view : Token → β}
    {source : List Char} {rules : List Rule} {keywords : Option (List String)}
    (hstep : g.step = LexerState.tableStep retag) (hkeeps : retag.Keeps view)
    (hsetUp : g.setUp { source } = .ok { source, rules, keywords }) :
    (rawTokens g source).map (·.map view) = (splitSteps source rules 0).map (·.map view) := by
  rw [rawTokens, hsetUp]
  exact run_keeps hstep hkeeps { source, rules, keywords }

theorem contents_eq_flatten (ts : List Token) : contents ts = (ts.map (·.content)).flatten := by
  rw [contents, List.flatMap_def]

/-- What a table makes of a text, whatever tags are added: tokens that make up the text, or an
error. -/
theorem rawTokens_eq {g : Grammar} {retag : Retagging} {source : List Char} {rules : List Rule}
    {keywords : Option (List String)} (hstep : g.step = LexerState.tableStep retag)
    (hkeeps : retag.KeepsContents) (hsetUp : g.setUp { source } = .ok { source, rules, keywords }) :
    (rawTokens g source).map (·.map (·.content)) =
      (splitSteps source rules 0).map (·.map (·.content)) :=
  rawTokens_keeps hstep hkeeps.keeps hsetUp

/-! ## Grammars that step by a table -/

/-- A grammar that steps by the table of rules it sets up, and adds tags as one of the bases does.
-/
structure Grammar.ByTable (g : Grammar) : Prop where
  step : ∃ b : BaseGrammar, g.step = b.grammar.step
  setUp : ∀ source s, g.setUp { source } = .ok s → ∃ rules keywords, s = { source, rules, keywords }

theorem BaseGrammar.byTable (b : BaseGrammar) : b.grammar.ByTable := by
  refine ⟨⟨b, rfl⟩, fun source s h => ?_⟩
  cases b with
  | plain => exact ⟨[], none, (Except.ok.inj h).symm⟩
  | json => exact ⟨Json.rules, none, (Except.ok.inj h).symm⟩
  | lua => exact ⟨Lua.rules, some Lua.keywords, (Except.ok.inj h).symm⟩

/-- What a grammar made from data sets up is what its base sets up, with other rules and words. -/
theorem CustomGrammar.exists_of_setUp {c : CustomGrammar} {s s' : LexerState} (h : c.setUp s = .ok s') :
    ∃ t rules, c.base.grammar.setUp s = .ok t ∧
      s' = { t with rules, keywords := c.keywords.or t.keywords } := by
  unfold CustomGrammar.setUp at h
  cases hbase : c.base.grammar.setUp s with
  | error e => rw [hbase] at h; exact absurd h (by simp [bind, Except.bind])
  | ok t =>
    rw [hbase] at h
    cases htexts : c.rules with
    | none =>
      rw [htexts] at h
      obtain rfl := Except.ok.inj h
      refine ⟨t, t.rules, rfl, ?_⟩
      cases c.keywords <;> rfl
    | some texts =>
      rw [htexts] at h
      cases hrules : Rule.ofTexts texts with
      | error e => simp [hrules, bind, Except.bind] at h
      | ok rules =>
        simp only [hrules] at h
        obtain rfl := Except.ok.inj h
        refine ⟨t, rules, rfl, ?_⟩
        cases c.keywords <;> rfl

/-- A grammar made from data steps by its table unless steps are laid down for it. -/
theorem CustomGrammar.byTable {c : CustomGrammar} (h : c.script = []) : c.grammar.ByTable := by
  refine ⟨⟨c.base, ?_⟩, fun source s hs => ?_⟩
  · funext s
    show c.step s = c.base.grammar.step s
    rw [CustomGrammar.step, h]
    rfl
  · obtain ⟨t, rules, hbase, rfl⟩ := CustomGrammar.exists_of_setUp hs
    obtain ⟨_, keywords, rfl⟩ := c.base.byTable.setUp source t hbase
    exact ⟨rules, c.keywords.or keywords, rfl⟩

/-- **The tokens of a grammar that steps by its table are, up to their tags, those of the split
text.** -/
theorem Grammar.ByTable.splitRec_of_rawTokens {g : Grammar} (hg : g.ByTable) {source : List Char}
    {raw : List Token} (h : rawTokens g source = .ok raw) :
    ∃ rules ts, splitRec rules source = .ok ts ∧ raw.map (·.content) = ts.map (·.content) := by
  obtain ⟨b, hstep⟩ := hg.step
  obtain ⟨s, hs, _⟩ := Except.bind_eq_ok.mp h
  obtain ⟨rules, keywords, rfl⟩ := hg.setUp source s hs
  have hraw := rawTokens_eq (hstep.trans b.step_eq) b.keepsContents_retag hs
  rw [h] at hraw
  obtain ⟨ts, hsteps, hmap⟩ := Except.map_eq_ok.mp hraw.symm
  exact ⟨rules, ts, ((splitSteps_alike rules source 0).ok_iff ts).mp hsteps, hmap.symm⟩

theorem Grammar.ByTable.contents_rawTokens {g : Grammar} (hg : g.ByTable) {source : List Char}
    {raw : List Token} (h : rawTokens g source = .ok raw) : contents raw = source := by
  obtain ⟨rules, ts, hrec, hmap⟩ := hg.splitRec_of_rawTokens h
  rw [contents_eq_flatten, hmap, ← contents_eq_flatten]
  exact contents_splitRec hrec

/-- Merging runs keeps the text, so merged tokens make up the source as well. -/
theorem Grammar.ByTable.contents_tokenize {g : Grammar} (hg : g.ByTable) {source : List Char}
    {combined : Bool} {ts : List Token} (h : tokenize g source combined = .ok ts) :
    contents ts = source := by
  obtain ⟨raw, hraw, rfl⟩ := Except.map_eq_ok.mp h
  have hsource := hg.contents_rawTokens hraw
  cases combined with
  | false => exact hsource
  | true => exact (contents_combine raw).trans hsource

/-! ## Tables that split every text -/

theorem content_ne_nil_of_joinRun {t : Token} {us : List Token} (ht : t.content ≠ [])
    (hus : ∀ u ∈ us, u.content ≠ []) : ∀ u ∈ joinRun t us, u.content ≠ [] := by
  intro u hu
  cases us with
  | nil =>
    obtain rfl := List.mem_singleton.mp hu
    exact ht
  | cons v vs =>
    rw [joinRun] at hu
    split at hu
    · rcases List.mem_cons.mp hu with rfl | hu
      · exact List.append_ne_nil_of_left_ne_nil ht _
      · exact hus u (List.mem_cons_of_mem v hu)
    · rcases List.mem_cons.mp hu with rfl | hu
      · exact ht
      · exact hus u hu

theorem content_ne_nil_of_combine : ∀ {ts : List Token}, (∀ t ∈ ts, t.content ≠ []) →
    ∀ u ∈ combine ts, u.content ≠ []
  | [], _ => fun _ hu => absurd hu List.not_mem_nil
  | t :: ts, h => by
    have hts : ∀ u ∈ combine ts, u.content ≠ [] :=
      content_ne_nil_of_combine fun u hu => h u (List.mem_cons_of_mem t hu)
    exact content_ne_nil_of_joinRun (h t List.mem_cons_self) hts

/-- **A grammar whose rules select no empty span has tokens for every text**, and none of them is
empty. -/
theorem Grammar.ByTable.exists_tokenize {g : Grammar} (hg : g.ByTable) {source : List Char}
    {s : LexerState} (hsetUp : g.setUp { source } = .ok s) (hrules : ∀ r ∈ s.rules, r.NeverEmpty)
    (combined : Bool) : ∃ ts, tokenize g source combined = .ok ts ∧ ∀ t ∈ ts, t.content ≠ [] := by
  obtain ⟨b, hstep⟩ := hg.step
  obtain ⟨rules, keywords, rfl⟩ := hg.setUp source s hsetUp
  obtain ⟨ts, hrec⟩ := exists_splitRec hrules source
  have hsteps := ((splitSteps_alike rules source 0).ok_iff ts).mpr hrec
  have hraw := rawTokens_eq (hstep.trans b.step_eq) b.keepsContents_retag hsetUp
  rw [hsteps] at hraw
  obtain ⟨raw, h, hmap⟩ := Except.map_eq_ok.mp hraw
  have hne : ∀ t ∈ raw, t.content ≠ [] := by
    intro t ht
    have hcontents : raw.map (·.content) = ts.map (·.content) := hmap
    have hmem : t.content ∈ ts.map (·.content) := hcontents ▸ List.mem_map_of_mem ht
    obtain ⟨u, hu, hcontent⟩ := List.mem_map.mp hmem
    exact hcontent ▸ (isRaw_of_splitRec hrec u hu).1
  rw [tokenize, h]
  cases combined with
  | false => exact ⟨raw, rfl, hne⟩
  | true => exact ⟨combine raw, rfl, content_ne_nil_of_combine hne⟩

/-! ## Coverage -/

/-- **Nothing of a text is lost.**  A step ends at a rule of the table that selects an empty span,
or moves the cursor over the text of its tokens, each of which is one that the table makes.  All the
tokens of a grammar that steps by a table make up the source. -/
theorem tokens_cover :
    (∀ (source : List Char) (cursor : Nat) (rules : List Rule), cursor < source.length →
      (∃ r ∈ rules, ∃ offset text,
        splitStep source cursor rules = .error (.emptyMatch r.tag r.text offset text)) ∨
      ∃ ts stop, splitStep source cursor rules = .ok (ts, stop) ∧ cursor < stop ∧
        stop ≤ source.length ∧ (∀ t ∈ ts, t.IsRaw rules) ∧
        contents ts = Span.of ⟨cursor, stop⟩ source) ∧
    ∀ (g : Grammar), g.ByTable → ∀ (source : List Char) (combined : Bool) (ts : List Token),
      tokenize g source combined = .ok ts → contents ts = source := by
  refine ⟨fun source cursor rules hc => ?_, fun g hg source combined ts h => hg.contents_tokenize h⟩
  cases h : splitStep source cursor rules with
  | error e =>
    obtain ⟨r, hr, _, offset, text, rfl⟩ := splitStep_error hc h
    exact Or.inl ⟨r, hr, offset, text, rfl⟩
  | ok step => exact Or.inr ⟨step.1, step.2, rfl, splitStep_covers hc h⟩

/-- A rule whose group lies ahead of what its pattern goes through. -/
def Rule.groupAhead : Rule where
  tag := "ahead"
  text := "a(?=b(c))"
  pattern := .concat [.char 'a', .ahead true (.concat [.char 'b', .group 1 (.char 'c')])]
  reads := Pattern.ofText_of_isDenotedBy (by decide +kernel)
  nonempty := by rfl

/-- The grammar with that rule, read from its text, and with the tags of JSON. -/
def CustomGrammar.groupAhead : CustomGrammar where
  base := .json
  rules := some [{ tag := "ahead", pattern := "a(?=b(c))" }]

/-- The text up to the group belongs to the step, and that before the start of the match to the
tokens. -/
theorem tokens_cover_groupAhead :
    (∃ ts stop, splitStep ['x', 'a', 'b', 'c', 'd'] 1 [Rule.groupAhead] = .ok (ts, stop) ∧
      stop = 4 ∧ contents ts = ['a', 'b', 'c']) ∧
    ∃ ts, tokenize CustomGrammar.groupAhead.grammar ['x', 'a', 'b', 'c'] true = .ok ts ∧
      ts.length = 2 ∧ contents ts = ['x', 'a', 'b', 'c'] := by
  have hstep : splitStep ['x', 'a', 'b', 'c', 'd'] 1 [Rule.groupAhead] =
      .ok ([.single ['a'] "ind", .single ['b'] "ind", .single ['c'] "ahead"], 4) := rfl
  have htokens : tokenize CustomGrammar.groupAhead.grammar ['x', 'a', 'b', 'c'] true =
      .ok [.single ['x', 'a', 'b'] "ind", .single ['c'] "ahead"] :=
    Except.toOption_eq_some.mp (by decide +kernel)
  have hg : CustomGrammar.groupAhead.grammar.ByTable := CustomGrammar.byTable rfl
  refine ⟨?_, _, htokens, rfl, tokens_cover.2 _ hg _ true _ htokens⟩
  rcases tokens_cover.1 ['x', 'a', 'b', 'c', 'd'] 1 [Rule.groupAhead] (by decide) with
    ⟨r, _, offset, text, herror⟩ | ⟨ts, stop, hok, _, _, _, hcontents⟩
  · exact absurd (hstep.symm.trans herror) (by simp)
  · obtain ⟨rfl, rfl⟩ := Prod.mk.inj (Except.ok.inj (hok.symm.trans hstep))
    exact ⟨_, _, hok, rfl, hcontents⟩

end Highlight
