import Highlight.Proofs.Grammar.Builtin
import Highlight.Proofs.Grammar.Tags

/-!
# The tokens of the built-in grammars

Both built-in grammars have for every text the tokens of the split text, with tags added
(`Json.exists_tokenize`, `Lua.exists_tokenize`).  Tags are added after the one that a token has from
its rule (`Token.head?_addTag`).

A token of Lua is tagged on its own: it is a constant if it is a variable in capital letters and
underscores, and a keyword if its text is a reserved word (`Lua.tags_tagWord`).
-/

namespace Highlight

/-- Adding a tag leaves the first one. -/
theorem Token.head?_addTag (t : Token) (tag : String) : (t.addTag tag).tags.head? = t.tags.head? := by
  show (withTag t.tags tag).head? = t.tags.head?
  unfold withTag
  split
  · rfl
  · obtain ⟨first, rest, htags⟩ := List.exists_cons_of_ne_nil t.tags_ne_nil
    simp [htags]

/-- Adding another tag leaves the content, and whether the token has a tag. -/
theorem Token.content_hasTag_addTag {tag other : String} (h : other ≠ tag) (t : Token) :
    ((t.addTag tag).content, (t.addTag tag).hasTag other) = (t.content, t.hasTag other) :=
  congrArg (t.content, ·) (hasTag_addTag_of_ne h t)

namespace Json

/-- **The tokens of JSON data** are those of the split text, tagged all at once. -/
theorem exists_tokenize (source : List Char) : ∃ raw, splitRec rules source = .ok raw ∧
    tokenize grammar source false = .ok (retagBatch raw) := by
  obtain ⟨raw, hraw⟩ := exists_splitRec neverEmpty_of_mem_rules source
  have hsteps := ((splitSteps_alike rules source 0).ok_iff raw).mpr hraw
  refine ⟨raw, hraw, ?_⟩
  rw [tokenize, rawTokens_eq rfl rfl, hsteps]
  rfl

end Json

namespace Lua

/-- Batch by batch, the tokens so far are tagged each on its own. -/
theorem joins_retag :
    Retagging.Joins retag id fun words ts => ts.map (tagWord (words.getD [])) := by
  intro s raw batch hraw
  have hsame : modifyLast (·.addTags []) s.tokens = s.tokens :=
    modifyLast_eq_self (fun _ => rfl) s.tokens
  have htokens : s.tokens = raw.map (tagWord (s.keywords.getD [])) := hraw
  show modifyLast (·.addTags []) s.tokens ++ batch.map _ = (raw ++ batch).map _
  rw [hsame, htokens, List.map_append]

/-- **The tokens of a run are those of the steps through the text, each tagged on its own.** -/
theorem rawTokens_eq {g : Grammar} {source : List Char} {rules : List Rule}
    {keywords : Option (List String)} (hstep : g.step = grammar.step)
    (hsetUp : g.setUp { source } = .ok { source, rules, keywords }) :
    rawTokens g source =
      (splitSteps source rules 0).map (·.map (tagWord (keywords.getD []))) := by
  have htable : g.step = LexerState.tableStep retag := hstep
  have hrun := run_joins htable joins_retag { source, rules, keywords } [] rfl
  rw [Except.map_id] at hrun
  rw [rawTokens, hsetUp]
  exact hrun

/-- **The tokens of Lua** are those of the split text, each tagged on its own. -/
theorem exists_tokenize (source : List Char) : ∃ raw, splitRec rules source = .ok raw ∧
    tokenize grammar source false = .ok (raw.map (tagWord keywords)) := by
  obtain ⟨raw, hraw⟩ := exists_splitRec neverEmpty_of_mem_rules source
  have hsteps := ((splitSteps_alike rules source 0).ok_iff raw).mpr hraw
  refine ⟨raw, hraw, ?_⟩
  rw [tokenize, rawTokens_eq rfl rfl, hsteps]
  rfl

/-- The tags of a token, from the tag of the rule that selected it and its content. -/
def tagsOf (tag : String) (content : List Char) : List String :=
  tag :: ((if tag = "var" ∧ content ≠ [] ∧ content.all fun c => c.isUpper || c == '_'
      then ["constant"] else []) ++
    if String.ofList content ∈ keywords then ["keyword"] else [])

theorem isConstant_iff {content : List Char} : isConstant content = true ↔
    content ≠ [] ∧ content.all fun c => c.isUpper || c == '_' := by
  rw [isConstant, Bool.and_eq_true, Bool.not_eq_true', List.isEmpty_eq_false_iff]

/-- The tags of a token of one tag, without that of the reserved words. -/
theorem tags_constant (tag : String) (content : List Char) :
    (if (Token.single content tag).hasTag "var" && isConstant content
      then (Token.single content tag).addTag "constant" else .single content tag).tags =
      tag :: if tag = "var" ∧ content ≠ [] ∧ content.all fun c => c.isUpper || c == '_'
        then ["constant"] else [] := by
  have hiff : ((Token.single content tag).hasTag "var" && isConstant content) = true ↔
      tag = "var" ∧ content ≠ [] ∧ content.all fun c => c.isUpper || c == '_' := by
    rw [Bool.and_eq_true, Json.hasTag_single, decide_eq_true_eq, isConstant_iff]
  simp only [hiff]
  split
  · next hconstant =>
    obtain ⟨rfl, _⟩ := hconstant
    rfl
  · rfl

/-- The tag of the reserved words comes last. -/
theorem tags_keyword {t : Token} (h : "keyword" ∉ t.tags) :
    (if keywords.contains (String.ofList t.content) then t.addTag "keyword" else t).tags =
      t.tags ++ if String.ofList t.content ∈ keywords then ["keyword"] else [] := by
  simp only [List.contains_iff_mem]
  split
  · exact if_neg h
  · exact (List.append_nil _).symm

/-- **A token of one tag, which is not `keyword`, is tagged by its content.** -/
theorem tags_tagWord {t : Token} {tag : String} (htags : t.tags = [tag]) (htag : tag ≠ "keyword") :
    (tagWord keywords t).tags = tagsOf tag t.content := by
  obtain ⟨content, tags, _, _⟩ := t
  obtain rfl : tags = [tag] := htags
  show (tagWord keywords (.single content tag)).tags = tagsOf tag content
  have hnot : "keyword" ∉ tag :: if tag = "var" ∧ content ≠ [] ∧
      content.all fun c => c.isUpper || c == '_' then ["constant"] else [] := by
    rw [List.mem_cons, not_or]
    refine ⟨htag.symm, ?_⟩
    split <;> simp
  rw [← tags_constant] at hnot
  refine (tags_keyword hnot).trans ?_
  rw [tags_constant, Token.content_ite_addTag, tagsOf]
  rfl

end Lua

end Highlight
