import Highlight.Proofs.Grammar.Tokens
import Highlight.Proofs.Lexeme
import Highlight.Proofs.Split.Provenance

/-!
# What the tags of the built-in grammars say

A character has the tag `ind` where no rule selects anything in the rest of its text.  So no character
that is a text of a rule by itself ever has it (`Lua.exists_char_of_ind`, `Json.exists_char_of_ind`).

The other tags are told from the characters that the tokens of a rule may start with or hold: a
reserved word starts with a letter, and only names do (`Lua.tags_of_keyword`); a colon of JSON data
stands in a string, in a parameter, or on its own (`Json.tags_of_colon`).
-/

namespace Highlight

open Text

theorem Literal.integer_plain : Literal.integer.Plain := ⟨rfl, rfl, rfl⟩

theorem Literal.integer_matches_singleton {c : Char} (h : c.isDigit = true) :
    Literal.integer.pattern.Matches [c] :=
  Pattern.matches_many_singleton.mpr ((CharClass.contains_ofCategory .digit c).trans h)

section FirstIn

variable {text : List Char} {span : Span} {t : Token}

namespace Token.FirstIn

variable {rules : List Rule} {c : Char}

/-- A token is of a rule whose tokens may start as it does. -/
theorem exists_canStart (h : t.FirstIn rules text span)
    (hregular : ∀ r ∈ Rule.complete rules, r.pattern.isRegular = true) (hc : t.content.head? = some c) :
    ∃ r ∈ Rule.complete rules, t.tags = [r.tag] ∧ r.canStart c = true := by
  obtain ⟨r, hr, hselect, hcontent, htags⟩ := h.exists_rule
  exact ⟨r, hr, htags, Rule.canStart_of_select (hregular r hr) hselect (hcontent ▸ hc)⟩

/-- A token is of a rule whose tokens may hold what it holds. -/
theorem exists_canHold (h : t.FirstIn rules text span)
    (hregular : ∀ r ∈ Rule.complete rules, r.pattern.isRegular = true) (hc : c ∈ t.content) :
    ∃ r ∈ Rule.complete rules, t.tags = [r.tag] ∧ r.canHold c = true := by
  obtain ⟨r, hr, hselect, hcontent, htags⟩ := h.exists_rule
  exact ⟨r, hr, htags, Rule.canHold_of_select (hregular r hr) hselect (hcontent ▸ hc)⟩

end Token.FirstIn

/-! ## Lua -/

namespace Lua

theorem isRegular_of_mem : ∀ r ∈ Rule.complete rules, r.pattern.isRegular = true := by decide

theorem tag_ne_ind : ∀ r ∈ rules, r.tag ≠ "ind" := by decide

theorem tag_ne_keyword : ∀ r ∈ Rule.complete rules, r.tag ≠ "keyword" := by decide

theorem variableName_plain : variableName.Plain := ⟨rfl, rfl, rfl⟩

theorem operator_plain : operator.Plain := ⟨rfl, rfl, rfl⟩

theorem nameStart_contains_iff {c : Char} : nameStart.contains c = true ↔
    (65 ≤ c.toNat ∧ c.toNat ≤ 90) ∨ (97 ≤ c.toNat ∧ c.toNat ≤ 122) ∨
      (95 ≤ c.toNat ∧ c.toNat ≤ 95) := by
  simp [nameStart, CharClass.contains, ClassItem.contains]

/-- A character of a word starts a name or is a digit. -/
theorem nameStart_or_isDigit {c : Char} (h : isWordChar c = true) :
    nameStart.contains c = true ∨ c.isDigit = true := by
  have hcases : (((c.isUpper || c.isLower) || c.isDigit) || c == '_') = true := h
  rw [Bool.or_eq_true, Bool.or_eq_true, Bool.or_eq_true, beq_iff_eq] at hcases
  rw [nameStart_contains_iff]
  rcases hcases with ((hupper | hlower) | hdigit) | rfl
  · have hrange : 'A'.val ≤ c.val ∧ c.val ≤ 'Z'.val := of_decide_eq_true hupper
    rw [UInt32.le_iff_toNat_le, UInt32.le_iff_toNat_le] at hrange
    exact Or.inl (Or.inl hrange)
  · have hrange : (decide ('a'.val ≤ c.val) && decide (c.val ≤ 'z'.val)) = true := hlower
    rw [Bool.and_eq_true, decide_eq_true_eq, decide_eq_true_eq, UInt32.le_iff_toNat_le,
      UInt32.le_iff_toNat_le] at hrange
    exact Or.inl (Or.inr (Or.inl hrange))
  · exact Or.inr hdigit
  · exact Or.inl (Or.inr (Or.inr ⟨Nat.le_refl _, Nat.le_refl _⟩))

theorem identifier_matches_singleton {c : Char} (h : nameStart.contains c = true) :
    identifier.Matches [c] := by
  refine ⟨[c], [], rfl, ⟨c, rfl, h⟩, Pattern.matches_many.mpr ⟨Nat.zero_le _, ?_⟩⟩
  intro d hd
  exact absurd hd List.not_mem_nil

/-- **What no rule of Lua selects** is a character of no word, and not one of an operator. -/
theorem exists_char_of_ind (h : t.FirstIn rules text span) (htag : t.tags = ["ind"]) :
    ∃ c, t.content = [c] ∧ isAsciiBlank c = false ∧ isWordChar c = false ∧ c ∉ operatorChars := by
  obtain ⟨c, hcontent, hblank, hnot⟩ := h.exists_char htag tag_ne_ind
  refine ⟨c, hcontent, hblank, Bool.eq_false_iff.mpr fun hword => ?_, fun hc => ?_⟩
  · rcases nameStart_or_isDigit hword with hstart | hdigit
    · exact hnot variableName (by simp [rules]) variableName_plain (identifier_matches_singleton hstart)
    · exact hnot Literal.integer (by simp [rules]) Literal.integer_plain
        (Literal.integer_matches_singleton hdigit)
  · refine hnot operator (by simp [rules]) operator_plain ?_
    exact Pattern.matches_many_singleton.mpr ((CharClass.contains_ofList operatorChars c).mpr hc)

/-- Reserved words start with a letter. -/
theorem head_of_keyword : ∀ word ∈ keywords, word.toList.head?.any isWordChar = true := by
  decide +kernel

/-- No tokens but names start with the letter of a reserved word. -/
theorem tag_of_canStart : ∀ r ∈ Rule.complete rules, ∀ word ∈ keywords,
    word.toList.head?.any r.canStart = true → r.tag = "var" ∨ r.tag = "method" ∨ r.tag = "ind" := by
  decide +kernel

/-- **A token whose text is a reserved word is a name.** -/
theorem tags_of_keyword (h : t.FirstIn rules text span) (hkeyword : String.ofList t.content ∈ keywords) :
    t.tags = ["var"] ∨ t.tags = ["method"] := by
  obtain ⟨c, hc, hword⟩ := (Option.any_eq_true _ _).mp (head_of_keyword _ hkeyword)
  have hhead : t.content.head? = some c := by rwa [String.toList_ofList] at hc
  obtain ⟨r, hr, htag, hcan⟩ := h.exists_canStart isRegular_of_mem hhead
  have hstart := tag_of_canStart r hr _ hkeyword (by rwa [hc])
  rcases hstart with hvar | hmethod | hind
  · exact Or.inl (htag.trans (congrArg ([·]) hvar))
  · exact Or.inr (htag.trans (congrArg ([·]) hmethod))
  · -- no letter is left to stand on its own
    obtain ⟨d, hcontent, _, hnot, _⟩ := exists_char_of_ind h (htag.trans (congrArg ([·]) hind))
    obtain rfl : d = c := by simpa [hcontent] using hhead
    exact absurd hword (by simp [hnot])

/-- The tag of the reserved words is on the tokens whose text is one. -/
theorem keyword_mem_tagsOf {tag : String} (htag : tag ≠ "keyword") {content : List Char} :
    "keyword" ∈ tagsOf tag content ↔ String.ofList content ∈ keywords := by
  unfold tagsOf
  split <;> split <;> simp [htag.symm, *]

theorem ind_mem_tagsOf {tag : String} {content : List Char} :
    "ind" ∈ tagsOf tag content ↔ tag = "ind" := by
  unfold tagsOf
  split <;> split <;> simp [eq_comm]

end Lua

/-! ## JSON data -/

namespace Json

theorem isRegular_of_mem : ∀ r ∈ Rule.complete rules, r.pattern.isRegular = true := by decide

theorem tag_ne_ind : ∀ r ∈ rules, r.tag ≠ "ind" := by decide

theorem assignment_plain : assignment.Plain := ⟨rfl, rfl, rfl⟩

theorem operator_plain : operator.Plain := ⟨rfl, rfl, rfl⟩

/-- **What no rule of JSON data selects** is no digit, no colon and no bracket. -/
theorem exists_char_of_ind (h : t.FirstIn rules text span) (htag : t.tags = ["ind"]) :
    ∃ c, t.content = [c] ∧ isAsciiBlank c = false ∧ c.isDigit = false ∧ c ≠ ':' ∧
      c ∉ ['{', '}', '(', ')', '[', ']'] := by
  obtain ⟨c, hcontent, hblank, hnot⟩ := h.exists_char htag tag_ne_ind
  refine ⟨c, hcontent, hblank, Bool.eq_false_iff.mpr fun hdigit => ?_, fun hcolon => ?_, fun hc => ?_⟩
  · exact hnot Literal.integer (by simp [rules]) Literal.integer_plain
      (Literal.integer_matches_singleton hdigit)
  · exact hnot assignment (by simp [rules]) assignment_plain
      (Pattern.matches_char.mpr (congrArg ([·]) hcolon))
  · refine hnot operator (by simp [rules]) operator_plain ?_
    exact Pattern.matches_many_singleton.mpr ((CharClass.contains_ofList _ c).mpr hc)

/-- **A token with a colon** is a string, a parameter, or the colon. -/
theorem tags_of_colon (h : t.FirstIn rules text span) (hcolon : ':' ∈ t.content) :
    ∃ tag ∈ ["string", "parameter", "assignment"], t.tags = [tag] := by
  have hhold : ∀ r ∈ Rule.complete rules, r.canHold ':' = true →
      r.tag ∈ ["string", "parameter", "assignment"] ∨ r.tag = "ind" := by decide
  obtain ⟨r, hr, htag, hcan⟩ := h.exists_canHold isRegular_of_mem hcolon
  rcases hhold r hr hcan with hmem | hind
  · exact ⟨r.tag, hmem, htag⟩
  · obtain ⟨c, hcontent, _, _, hne, _⟩ := exists_char_of_ind h (htag.trans (congrArg ([·]) hind))
    rw [hcontent, List.mem_singleton] at hcolon
    exact absurd hcolon.symm hne

end Json

end FirstIn

/-! ## All tokens -/

/-- What the tags of a token of Lua say. -/
structure Lua.Classified (t : Token) : Prop where
  /-- One tag is that of a rule, and the others follow from it and from the text.  Only names are
  reserved words. -/
  tags : ∃ tag ∈ (Rule.complete rules).map (·.tag), t.tags = tagsOf tag t.content ∧
    ("keyword" ∈ t.tags → tag = "var" ∨ tag = "method")
  ind : "ind" ∈ t.tags → ∃ c, t.content = [c] ∧ isAsciiBlank c = false ∧ isWordChar c = false ∧
    c ∉ operatorChars

/-- What the tags of the tokens of JSON data say. -/
structure Json.Classified (source : List Char) (ts : List Token) : Prop where
  ind : ∀ t ∈ ts, "ind" ∈ t.tags → ∃ c, t.content = [c] ∧ isAsciiBlank c = false ∧
    c.isDigit = false ∧ c ≠ ':' ∧ c ∉ ['{', '}', '(', ')', '[', ']']
  /-- The token in which a colon lies is a string, a parameter or an assignment. -/
  colon : ∀ i, source[i]? = some ':' → ∃ before t after, ts = before ++ t :: after ∧
    (contents before).length ≤ i ∧ i < (contents before).length + t.content.length ∧
    ∃ tag ∈ ["string", "parameter", "assignment"], t.tags.head? = some tag

theorem Lua.classified_tagWord {source : List Char} {raw : List Token}
    (hraw : splitRec rules source = .ok raw) {t : Token} (ht : t ∈ raw) :
    Classified (tagWord keywords t) := by
  obtain ⟨part, span, _, hin⟩ := exists_firstIn_of_mem hraw t ht
  obtain ⟨r, hr, _, _, htag⟩ := hin.exists_rule
  have htags := tags_tagWord htag (tag_ne_keyword r hr)
  refine ⟨⟨r.tag, List.mem_map_of_mem hr, ?_, fun hkeyword => ?_⟩, fun hind => ?_⟩
  · rw [content_tagWord]
    exact htags
  · rw [htags, keyword_mem_tagsOf (tag_ne_keyword r hr)] at hkeyword
    simpa [htag] using tags_of_keyword hin hkeyword
  · rw [htags, ind_mem_tagsOf] at hind
    rw [content_tagWord]
    exact exists_char_of_ind hin (htag.trans (congrArg ([·]) hind))

/-- A token of tagged JSON data is a token of the split text, seen in any way that the two tags that
are added do not matter for. -/
theorem Json.exists_mem_of_retagBatch {β : Type} (view : Token → β)
    (hnull : ∀ t : Token, view (t.addTag "null") = view t)
    (hindex : ∀ t : Token, view (t.addTag "index") = view t) {raw : List Token} {t : Token}
    (ht : t ∈ retagBatch raw) : ∃ t₀ ∈ raw, view t₀ = view t := by
  have hmem : view t ∈ (retagBatch raw).map view := List.mem_map_of_mem ht
  rw [map_retagBatch view hnull hindex] at hmem
  exact List.mem_map.mp hmem

section Json

variable {source : List Char} {raw : List Token} (hraw : splitRec Json.rules source = .ok raw)
include hraw

theorem Json.ind_of_mem {t : Token} (ht : t ∈ retagBatch raw) (hind : "ind" ∈ t.tags) :
    ∃ c, t.content = [c] ∧ isAsciiBlank c = false ∧ c.isDigit = false ∧ c ≠ ':' ∧
      c ∉ ['{', '}', '(', ')', '[', ']'] := by
  obtain ⟨t₀, ht₀, hview⟩ := exists_mem_of_retagBatch (fun u => (u.content, u.hasTag "ind"))
    (Token.content_hasTag_addTag (by decide)) (Token.content_hasTag_addTag (by decide)) ht
  obtain ⟨hcontent, htag⟩ := Prod.mk.inj hview
  obtain ⟨part, span, _, hin⟩ := exists_firstIn_of_mem hraw t₀ ht₀
  obtain ⟨r, _, _, _, htags⟩ := hin.exists_rule
  have hloose : t₀.hasTag "ind" = true := htag.trans (List.contains_iff_mem.mpr hind)
  rw [Token.hasTag, htags, List.contains_iff_mem, List.mem_singleton] at hloose
  rw [← hcontent]
  exact exists_char_of_ind hin (htags.trans (congrArg ([·]) hloose.symm))

theorem Json.head?_of_colon {t : Token} (ht : t ∈ retagBatch raw) (hcolon : ':' ∈ t.content) :
    ∃ tag ∈ ["string", "parameter", "assignment"], t.tags.head? = some tag := by
  have hsame : ∀ (tag : String) (u : Token),
      ((u.addTag tag).content, (u.addTag tag).tags.head?) = (u.content, u.tags.head?) :=
    fun tag u => congrArg (u.content, ·) (u.head?_addTag tag)
  obtain ⟨t₀, ht₀, hview⟩ := exists_mem_of_retagBatch (fun u => (u.content, u.tags.head?))
    (hsame "null") (hsame "index") ht
  obtain ⟨hcontent, htag⟩ := Prod.mk.inj hview
  obtain ⟨part, span, _, hin⟩ := exists_firstIn_of_mem hraw t₀ ht₀
  obtain ⟨tag, hmem, htags⟩ := tags_of_colon hin (hcontent ▸ hcolon)
  exact ⟨tag, hmem, by rw [← htag, htags]; rfl⟩

end Json

/-- **What the tags of the built-in grammars say is true**, for every text. -/
theorem builtin_classified (source : List Char) :
    (∃ ts, tokenize Lua.grammar source false = .ok ts ∧ ∀ t ∈ ts, Lua.Classified t) ∧
    ∃ ts, tokenize Json.grammar source false = .ok ts ∧ Json.Classified source ts := by
  constructor
  · obtain ⟨raw, hraw, hok⟩ := Lua.exists_tokenize source
    refine ⟨_, hok, fun t ht => ?_⟩
    obtain ⟨t₀, ht₀, rfl⟩ := List.mem_map.mp ht
    exact Lua.classified_tagWord hraw ht₀
  · obtain ⟨raw, hraw, hok⟩ := Json.exists_tokenize source
    refine ⟨_, hok, fun t ht => Json.ind_of_mem hraw ht, fun i hi => ?_⟩
    have hsource := BaseGrammar.json.byTable.contents_tokenize hok
    rw [← hsource] at hi
    obtain ⟨before, t, after, hts, hstart, hstop, hcolon⟩ := exists_token_at hi
    have ht : t ∈ Json.retagBatch raw := by
      rw [hts]
      exact List.mem_append_right before List.mem_cons_self
    exact ⟨before, t, after, hts, hstart, hstop, Json.head?_of_colon hraw ht hcolon⟩

/-- A constant and a reserved word before a parenthesis, and a colon between parentheses; the character
between them and the last one are of no rule. -/
theorem builtin_classified_mixed :
    (∃ t u v, tokenize Lua.grammar ['X', '@', 'i', 'f', '('] false =
        .ok [t, u, v, .single ['('] "operator"] ∧ Lua.Classified t ∧ "constant" ∈ t.tags ∧
        Lua.Classified u ∧ "ind" ∈ u.tags ∧ Lua.Classified v ∧ "keyword" ∈ v.tags) ∧
    ∃ ts, tokenize Json.grammar ['(', ':', ')', '$'] false = .ok ts ∧
      Json.Classified ['(', ':', ')', '$'] ts ∧ ts[1]? = some (.single [':'] "parameter") ∧
      ts[3]? = some (.single ['$'] "ind") := by
  have hlua : tokenize Lua.grammar ['X', '@', 'i', 'f', '('] false =
      .ok [(Token.single ['X'] "var").addTag "constant", .single ['@'] "ind",
        (Token.single ['i', 'f'] "method").addTag "keyword", .single ['('] "operator"] :=
    Except.toOption_eq_some.mp (by decide +kernel)
  have hjson : tokenize Json.grammar ['(', ':', ')', '$'] false =
      .ok [.single ['('] "operator", .single [':'] "parameter", .single [')'] "operator",
        .single ['$'] "ind"] := Except.toOption_eq_some.mp (by decide +kernel)
  obtain ⟨ts, hok, hall⟩ := (builtin_classified ['X', '@', 'i', 'f', '(']).1
  obtain rfl := Except.ok.inj (hok.symm.trans hlua)
  obtain ⟨us, hok', hclassified⟩ := (builtin_classified ['(', ':', ')', '$']).2
  obtain rfl := Except.ok.inj (hok'.symm.trans hjson)
  refine ⟨⟨_, _, _, hok, hall _ ?_, by decide, hall _ ?_, by decide, hall _ ?_, by decide⟩, _, hok',
    hclassified, rfl, rfl⟩
  all_goals simp

end Highlight
