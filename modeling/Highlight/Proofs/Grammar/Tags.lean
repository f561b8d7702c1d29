import Highlight.Proofs.Tokenize

/-!
# Tags do not depend on the batches

A grammar adds tags to one batch after the other, and sees of the batches before only their last token.
For JSON data the tokens of a run are still those of the split text, tagged all at once
(`Json.rawTokens_eq`): the places where the run was cut into batches leave no trace.

A token is tagged by itself and by the token after it alone.  So a list that is continued changes in the
tags of its last token only (`Json.retagBatch_append`), and those are the tags that the next batch hands
back (`Json.joins_retag`).
-/

namespace Highlight

/-! ## Changing the last element -/

theorem modifyLast_cons {α : Type} (f : α → α) (a : α) {l : List α} (h : l ≠ []) :
    modifyLast f (a :: l) = a :: modifyLast f l := by
  cases l with
  | nil => exact absurd rfl h
  | cons b l => rfl

theorem modifyLast_eq_self {α : Type} {f : α → α} (h : ∀ a, f a = a) (l : List α) :
    modifyLast f l = l := by
  have hmap := map_modifyLast (g := id) h l
  rwa [List.map_id, List.map_id] at hmap

/-- Only what happens to the last element matters. -/
theorem modifyLast_congr {α : Type} {f g : α → α} : ∀ {l : List α},
    (∀ a, l.getLast? = some a → f a = g a) → modifyLast f l = modifyLast g l
  | [], _ => rfl
  | [a], h => congrArg ([·]) (h a rfl)
  | a :: b :: l, h => by
    have hrest : modifyLast f (b :: l) = modifyLast g (b :: l) := by
      refine modifyLast_congr fun c hc => h c ?_
      rw [List.getLast?_cons_cons]
      exact hc
    rw [modifyLast, modifyLast, hrest]

/-! ## Tokens with one tag -/

theorem Token.eq_of_tags {t u : Token} (hcontent : t.content = u.content) (htags : t.tags = u.tags) :
    t = u := by
  cases t
  cases u
  obtain rfl : _ = _ := hcontent
  obtain rfl : _ = _ := htags
  rfl

theorem Token.hasTag_addTag_of_ne {tag other : String} (h : other ≠ tag) (t : Token) :
    (t.addTag tag).hasTag other = t.hasTag other := by
  have hiff : (t.addTag tag).hasTag other = true ↔ t.hasTag other = true := by
    show (withTag t.tags tag).contains other = true ↔ t.tags.contains other = true
    rw [List.contains_iff_mem, List.contains_iff_mem, mem_withTag]
    exact ⟨fun hor => hor.resolve_right h, Or.inl⟩
  exact Bool.eq_iff_iff.mpr hiff

/-- The tokens of the steps through a text carry one tag each, that of the rule that selected them. -/
theorem exists_singles {source : List Char} {rules : List Rule} {cursor : Nat} {ts : List Token}
    (h : splitSteps source rules cursor = .ok ts) :
    ∃ raw : List (String × List Char), ts = raw.map fun r => .single r.2 r.1 := by
  have hraw := isRaw_of_splitRec (((splitSteps_alike rules source cursor).ok_iff ts).mp h)
  clear h
  induction ts with
  | nil => exact ⟨[], rfl⟩
  | cons t ts ih =>
    obtain ⟨raw, rfl⟩ := ih fun u hu => hraw u (List.mem_cons_of_mem t hu)
    obtain ⟨_, tag, htags, _⟩ := hraw t List.mem_cons_self
    have ht : t = .single t.content tag := Token.eq_of_tags rfl htags
    exact ⟨(tag, t.content) :: raw, by rw [List.map_cons, ← ht]⟩

namespace Json

/-! ## JSON data -/

theorem isKey_tagNull (t u : Token) : isKey (tagNull t) u = isKey t u := by
  have hstring : (tagNull t).hasTag "string" = t.hasTag "string" := by
    unfold tagNull
    split
    · exact Token.hasTag_addTag_of_ne (by decide) t
    · rfl
  rw [isKey, isKey, hstring]

theorem retagBatch_ne_nil (t : Token) (rest : List Token) : retagBatch (t :: rest) ≠ [] := by
  cases rest <;> simp [retagBatch]

/-- **A list that is continued changes in its last token only**, which is a key if the list goes on
with a colon. -/
theorem retagBatch_append : ∀ (raw : List Token) (u : Token) (rest : List Token),
    retagBatch (raw ++ u :: rest) =
      modifyLast (fun t => if isKey t u then t.addTag "index" else t) (retagBatch raw) ++
        retagBatch (u :: rest)
  | [], _, _ => rfl
  | [t], u, rest => by
    show (if isKey t u then _ else _) :: _ = [if isKey (tagNull t) u then _ else _] ++ _
    rw [isKey_tagNull]
    rfl
  | t :: v :: raw, u, rest => by
    have ih := retagBatch_append (v :: raw) u rest
    rw [List.cons_append, List.cons_append, retagBatch, ← List.cons_append, ih, retagBatch,
      modifyLast_cons _ _ (retagBatch_ne_nil v raw), List.cons_append]

/-- Batch by batch, the tokens so far are tagged as a list of their own. -/
theorem joins_retag : Retagging.Joins retag id fun _ => retagBatch := by
  intro s raw batch hraw
  have hraw : s.tokens = retagBatch raw := hraw
  show modifyLast _ s.tokens ++ retagBatch batch = retagBatch (raw ++ batch)
  cases batch with
  | nil =>
    have hback : (retag s []).2 = [] := by
      unfold retag
      cases s.last? <;> rfl
    have hsame : modifyLast (·.addTags []) s.tokens = s.tokens :=
      modifyLast_eq_self (fun _ => rfl) s.tokens
    rw [hback, hsame, hraw, List.append_nil]
    exact List.append_nil _
  | cons u rest =>
    rw [retagBatch_append, ← hraw]
    refine congrArg (· ++ _) (modifyLast_congr fun t ht => ?_)
    have hlast : s.last? = some t := ht
    simp only [retag, hlast]
    split <;> rfl

/-- **The tokens of a run are those of the steps through the text, tagged all at once.** -/
theorem rawTokens_eq {g : Grammar} {source : List Char} {rules : List Rule}
    {keywords : Option (List String)} (hstep : g.step = grammar.step)
    (hsetUp : g.setUp { source } = .ok { source, rules, keywords }) :
    rawTokens g source = (splitSteps source rules 0).map retagBatch := by
  have htable : g.step = LexerState.tableStep retag := hstep
  have hrun := run_joins htable joins_retag { source, rules, keywords } [] rfl
  rw [Except.map_id] at hrun
  rw [rawTokens, hsetUp]
  exact hrun

/-! ## The tags of a token -/

theorem getElem?_retagBatch : ∀ (raw : List Token) (i : Nat), (retagBatch raw)[i]? =
    raw[i]?.map fun t => if raw[i + 1]?.any (isKey t) then (tagNull t).addTag "index" else tagNull t
  | [], i => rfl
  | [t], 0 => rfl
  | [t], i + 1 => rfl
  | t :: u :: rest, 0 => rfl
  | t :: u :: rest, i + 1 => by
    rw [retagBatch, List.getElem?_cons_succ, getElem?_retagBatch (u :: rest) i]
    rfl

/-- The tags of a token, from the tag of the rule that selected it, its content, and the tag of the rule
of the token after it. -/
def tagsOf (tag : String) (content : List Char) (next : Option String) : List String :=
  tag :: ((if tag = "string" ∧ next = some "assignment" then ["index"] else []) ++
    if tag = "keyword" ∧ content = ['n', 'u', 'l', 'l'] then ["null"] else [])

theorem hasTag_single (content : List Char) (tag other : String) :
    (Token.single content tag).hasTag other = decide (tag = other) := by
  rw [Bool.eq_iff_iff, decide_eq_true_eq]
  show [tag].contains other = true ↔ tag = other
  rw [List.contains_iff_mem, List.mem_singleton]
  exact eq_comm

theorem tagNull_single (content : List Char) (tag : String) :
    tagNull (.single content tag) = if tag = "keyword" ∧ content = ['n', 'u', 'l', 'l']
      then (Token.single content tag).addTag "null" else .single content tag := by
  have hcond : (!decide (tag = "assignment") && decide (tag = "keyword") &&
      decide (content = ['n', 'u', 'l', 'l'])) = true ↔
      tag = "keyword" ∧ content = ['n', 'u', 'l', 'l'] := by
    simp only [Bool.and_eq_true, Bool.not_eq_true', decide_eq_false_iff_not, decide_eq_true_eq]
    constructor
    · rintro ⟨⟨_, rfl⟩, hcontent⟩
      exact ⟨rfl, hcontent⟩
    · rintro ⟨rfl, hcontent⟩
      exact ⟨⟨by decide, rfl⟩, hcontent⟩
  unfold tagNull
  simp only [hasTag_single]
  by_cases hword : tag = "keyword" ∧ content = ['n', 'u', 'l', 'l']
  · rw [if_pos hword]
    exact if_pos (hcond.mpr hword)
  · rw [if_neg hword]
    exact if_neg (mt hcond.mp hword)

theorem any_isKey_single (tag : String) (content : List Char) (next : Option (String × List Char)) :
    (next.map fun r => Token.single r.2 r.1).any (isKey (.single content tag)) = true ↔
      tag = "string" ∧ next.map (·.1) = some "assignment" := by
  cases next with
  | none => simp
  | some r =>
    show isKey (.single content tag) (.single r.2 r.1) = true ↔ tag = "string" ∧ some r.1 = _
    simp only [isKey, hasTag_single, Bool.and_eq_true, decide_eq_true_eq, Option.some.injEq]
    exact and_comm

/-- A token of one tag is tagged by its content and by the tag of the token after it. -/
theorem tags_single (tag : String) (content : List Char) (next : Option (String × List Char)) :
    (if (next.map fun r => Token.single r.2 r.1).any (isKey (.single content tag))
      then (tagNull (.single content tag)).addTag "index" else tagNull (.single content tag)).tags =
      tagsOf tag content (next.map (·.1)) := by
  rw [tagNull_single, tagsOf]
  by_cases hkey : tag = "string" ∧ next.map (·.1) = some "assignment"
  · -- a string is no keyword, so only one of the two tags is ever added
    have hword : ¬ (tag = "keyword" ∧ content = ['n', 'u', 'l', 'l']) := by
      rintro ⟨rfl, _⟩
      exact absurd hkey.1 (by decide)
    rw [if_pos ((any_isKey_single tag content next).mpr hkey), if_neg hword, if_pos hkey, if_neg hword,
      hkey.1]
    rfl
  · rw [if_neg (mt (any_isKey_single tag content next).mp hkey), if_neg hkey]
    split
    · next hword =>
      rw [hword.1]
      rfl
    · rfl

theorem length_retagBatch (batch : List Token) : (retagBatch batch).length = batch.length := by
  have hlength := congrArg List.length (contents_retagBatch batch)
  rwa [List.length_map, List.length_map] at hlength

theorem exists_getElem?_retagBatch {raw : List (String × List Char)} {i : Nat} {tag : String}
    {content : List Char} (h : raw[i]? = some (tag, content)) :
    ∃ t, (retagBatch (raw.map fun r => .single r.2 r.1))[i]? = some t ∧ t.content = content ∧
      t.tags = tagsOf tag content (raw[i + 1]?.map (·.1)) := by
  rw [getElem?_retagBatch, List.getElem?_map, List.getElem?_map, h]
  exact ⟨_, rfl, (Token.content_ite_addTag _ _ _).trans (content_tagNull _), tags_single tag content _⟩

/-- **What the tokens of JSON data are**, for every grammar that steps as that of JSON does, whatever
its table: those of the steps through the text, and each has the tag of its rule, then `index` if that
is `string` and the next token is an assignment, then `null` if it is the keyword `null`. -/
theorem tokenize_eq_ok_iff {g : Grammar} {source : List Char} {rules : List Rule}
    {keywords : Option (List String)} (hstep : g.step = grammar.step)
    (hsetUp : g.setUp { source } = .ok { source, rules, keywords }) (ts : List Token) :
    tokenize g source false = .ok ts ↔
      ∃ raw : List (String × List Char),
        splitSteps source rules 0 = .ok (raw.map fun r => .single r.2 r.1) ∧
        ts.length = raw.length ∧
        ∀ i tag content, raw[i]? = some (tag, content) → ∃ t, ts[i]? = some t ∧ t.content = content ∧
          t.tags = tagsOf tag content (raw[i + 1]?.map (·.1)) := by
  have htokens : tokenize g source false = (splitSteps source rules 0).map retagBatch := by
    rw [tokenize, rawTokens_eq hstep hsetUp]
    exact congrFun Except.map_id _
  rw [htokens, Except.map_eq_ok]
  constructor
  · rintro ⟨us, hus, rfl⟩
    obtain ⟨raw, rfl⟩ := exists_singles hus
    refine ⟨raw, hus, ?_, fun i tag content h => exists_getElem?_retagBatch h⟩
    rw [length_retagBatch, List.length_map]
  · rintro ⟨raw, hraw, hlength, htags⟩
    refine ⟨_, hraw, List.ext_getElem? fun i => ?_⟩
    cases h : raw[i]? with
    | none =>
      have hend : raw.length ≤ i := List.getElem?_eq_none_iff.mp h
      rw [List.getElem?_eq_none (by rw [length_retagBatch, List.length_map]; exact hend),
        List.getElem?_eq_none (hlength ▸ hend)]
    | some r =>
      obtain ⟨t, ht, hcontent, htag⟩ := htags i r.1 r.2 h
      obtain ⟨u, hu, hcontent', htag'⟩ := exists_getElem?_retagBatch h
      rw [ht, hu, Token.eq_of_tags (hcontent'.trans hcontent.symm) (htag'.trans htag.symm)]

/-- A key and its value `null`, which is found before the colon that it skips: the colon comes first in
its batch, and the key was in the batch before. -/
theorem tokenize_null :
    grammar.setUp { source := ['"', 'a', '"', ':', 'n', 'u', 'l', 'l'] } =
      .ok { source := ['"', 'a', '"', ':', 'n', 'u', 'l', 'l'], rules } ∧
    tokenize grammar ['"', 'a', '"', ':', 'n', 'u', 'l', 'l'] false = .ok
      [(Token.single ['"', 'a', '"'] "string").addTag "index", .single [':'] "assignment",
        (Token.single ['n', 'u', 'l', 'l'] "keyword").addTag "null"] := by
  refine ⟨rfl, (tokenize_eq_ok_iff rfl rfl _).mpr ⟨[("string", ['"', 'a', '"']), ("assignment", [':']),
    ("keyword", ['n', 'u', 'l', 'l'])], Except.toOption_eq_some.mp (by decide +kernel), rfl, ?_⟩⟩
  intro i tag content h
  match i, h with
  | 0, rfl | 1, rfl | 2, rfl => exact ⟨_, rfl, rfl, by decide⟩

end Json

end Highlight
