import Highlight.Proofs.Grammar.Classes

/-!
# Calls and variables in Lua

A name is tagged `method` if a parenthesis opens right after it, and else `var`.  The rule for calls
decides this in the text that it searches, which may be a part of the source and end right after a
name.  Still no variable comes to stand before a parenthesis (`calls_followed`):

* a token that starts with an open parenthesis is an operator, and was selected where no rule for
  names selects anything (`operator_of_paren`);
* so no variable is among the tokens before it in the text it was selected in;
* and after a variable, in the text it was selected in, there is no parenthesis, or the rule for calls
  would have selected something there.
-/

namespace Highlight.Lua

open Text

/-! ## The rules for names -/

/-- What comes after the name of a call. -/
def callContext : Pattern :=
  .seq (.char '(') (.seq (.many 0 (.except ')')) (.optional (.char ')')))

theorem method_heads : method.Heads identifier callContext := ⟨rfl, rfl, rfl, rfl, rfl, rfl⟩

/-- An open parenthesis is enough of a context, whatever comes after it. -/
theorem callContext_matches_paren : callContext.Matches ['('] := by
  refine ⟨['('], [], rfl, Pattern.matches_char.mpr rfl, [], [], rfl, ?_, ?_⟩
  · exact Pattern.matches_many.mpr ⟨Nat.zero_le _, fun _ hc => absurd hc List.not_mem_nil⟩
  · exact ⟨[], rfl, Nat.le_refl _, fun _ _ => Nat.zero_le _, fun _ hu => absurd hu List.not_mem_nil⟩

/-- The context starts with an open parenthesis. -/
theorem head?_of_callContext {v : List Char} (h : callContext.Matches v) : v.head? = some '(' := by
  obtain ⟨u, w, rfl, hu, _⟩ := h
  rw [Pattern.matches_char.mp hu]
  rfl

theorem eq_method_of_tag {r : Rule} (hr : r ∈ Rule.complete rules) (htag : r.tag = "method") :
    r = method := by
  have hall : ∀ r ∈ Rule.complete rules, r.tag = "method" → r = method := by
    simp +decide [Rule.complete, rules]
  exact hall r hr htag

theorem eq_variableName_of_tag {r : Rule} (hr : r ∈ Rule.complete rules) (htag : r.tag = "var") :
    r = variableName := by
  have hall : ∀ r ∈ Rule.complete rules, r.tag = "var" → r = variableName := by
    simp +decide [Rule.complete, rules]
  exact hall r hr htag

/-! ## First selections -/

section FirstIn

variable {text : List Char} {span : Span} {t : Token}

/-- A call is followed by a parenthesis in the text it was selected in. -/
theorem paren_of_method (h : t.FirstIn rules text span) (htag : t.tags = ["method"]) :
    (text.drop span.stop).head? = some '(' := by
  obtain ⟨r, hr, hselect, _, htags⟩ := h.exists_rule
  obtain rfl := eq_method_of_tag hr (by simpa [htag] using htags.symm)
  obtain ⟨_, v, rest, hv, hdrop⟩ := method_heads.of_select hselect
  rw [hdrop, List.head?_append, head?_of_callContext hv]
  rfl

/-- A variable is a name, and not followed by a parenthesis in the text it was selected in. -/
theorem not_paren_of_var (h : t.FirstIn rules text span) (htag : t.tags = ["var"]) :
    variableName.select text = some span ∧ (text.drop span.stop).head? ≠ some '(' := by
  have hnone : method.select text = none := by
    have hsplit : t.FirstIn ([Literal.string, string, Literal.exponential, Literal.hexadecimal,
        method] ++ [variableName, Literal.binary, Literal.fraction, Literal.integer, operator])
        text span := h
    exact hsplit.select_eq_none (by rw [htag]; decide) method (by simp)
  obtain ⟨r, hr, hselect, _, htags⟩ := h.exists_rule
  obtain rfl := eq_variableName_of_tag hr (by simpa [htag] using htags.symm)
  refine ⟨hselect, fun hparen => ?_⟩
  -- the name and the parenthesis would be a call
  have hname : identifier.Matches (span.of text) := Rule.matches_of_select rfl rfl hselect
  obtain ⟨rest, hrest⟩ := List.head?_eq_some_iff.mp hparen
  have htext : text = text.take span.start ++ (span.of text ++ ['(']) ++ rest := by
    have hsplit := Rule.split_of_select hselect
    rw [hrest] at hsplit
    simpa using hsplit.symm
  exact method_heads.not_matches (htext ▸ hnone) hname callContext_matches_paren

/-- **What starts with an open parenthesis is an operator**, selected where there is no name. -/
theorem operator_of_paren (h : t.FirstIn rules text span) (hparen : t.content.head? = some '(') :
    t.tags = ["operator"] ∧ variableName.select text = none := by
  have hstart : ∀ r ∈ Rule.complete rules, r.canStart '(' = true →
      r.tag = "operator" ∨ r.tag = "ind" := by decide
  obtain ⟨r, hr, htag, hcan⟩ := h.exists_canStart isRegular_of_mem hparen
  rcases hstart r hr hcan with hoperator | hind
  · rw [hoperator] at htag
    have hsplit : t.FirstIn ([Literal.string, string, Literal.exponential, Literal.hexadecimal,
        method, variableName] ++ [Literal.binary, Literal.fraction, Literal.integer, operator])
        text span := h
    exact ⟨htag, hsplit.select_eq_none (by rw [htag]; decide) variableName (by simp)⟩
  · obtain ⟨c, hcontent, _, _, hc⟩ := exists_char_of_ind h (htag.trans (congrArg ([·]) hind))
    obtain rfl : c = '(' := by simpa [hcontent] using hparen
    exact absurd (by decide) hc

end FirstIn

/-! ## Neighbours -/

/-- What the token after a call or a variable is. -/
structure Follows (t u : Token) : Prop where
  method : t.tags = ["method"] → u.tags = ["operator"] ∧ u.content.head? = some '('
  variableName : t.tags = ["var"] → u.content.head? ≠ some '('

/-- A call is not the last token of a text. -/
theorem tags_of_getLast? {text : List Char} {raw : List Token} (h : splitRec rules text = .ok raw)
    {t : Token} (ht : raw.getLast? = some t) : t.tags ≠ ["method"] := by
  intro htag
  obtain ⟨part, start, _, hin⟩ := exists_firstIn_of_getLast? h t ht
  have hparen := paren_of_method hin htag
  rw [List.drop_length] at hparen
  exact absurd hparen (by simp)

/-- Where there is no name, no token is a variable. -/
theorem tags_of_select_eq_none {text : List Char} {raw : List Token}
    (h : splitRec rules text = .ok raw) (hnone : variableName.select text = none) :
    ∀ t ∈ raw, t.tags ≠ ["var"] := by
  intro t ht htag
  obtain ⟨part, span, hpart, hin⟩ := exists_firstIn_of_mem h t ht
  have hselect := (not_paren_of_var hin htag).1
  rw [variableName_plain.select_of_isInfix hnone hpart] at hselect
  exact absurd hselect (by simp)

/-- **A token of a split text is followed as it must be.** -/
theorem isChain_follows {text : List Char} {raw : List Token} (h : splitRec rules text = .ok raw) :
    raw.IsChain Follows := by
  refine isChain_splitRec ?_ ?_ h
  · intro text span before t u hin hbefore ht
    refine ⟨fun htag => absurd htag (tags_of_getLast? hbefore ht), fun htag hparen => ?_⟩
    -- an operator, with no name in the text before it
    have hnone := (operator_of_paren hin hparen).2
    have hbare := variableName_plain.select_of_isInfix hnone (List.take_prefix span.start text).isInfix
    exact tags_of_select_eq_none hbefore hbare t (List.mem_of_getLast? ht) htag
  · intro text span after t u hin hafter hu
    have hfirst : u.content.head? = (text.drop span.stop).head? := head?_of_splitRec hafter hu
    refine ⟨fun htag => ?_, fun htag => ?_⟩
    · have hparen := hfirst.trans (paren_of_method hin htag)
      obtain ⟨part, stop, _, hpart⟩ := exists_firstIn_of_head? hafter u hu
      exact ⟨(operator_of_paren hpart hparen).1, hparen⟩
    · rw [hfirst]
      exact (not_paren_of_var hin htag).2

/-- After a call there is a token. -/
theorem exists_next {text : List Char} {raw : List Token} (h : splitRec rules text = .ok raw)
    {i : Nat} {t : Token} (ht : raw[i]? = some t) (htag : t.tags = ["method"]) :
    ∃ u, raw[i + 1]? = some u := by
  cases hnext : raw[i + 1]? with
  | some u => exact ⟨u, rfl⟩
  | none =>
    obtain ⟨hlt, _⟩ := List.getElem?_eq_some_iff.mp ht
    rw [List.getElem?_eq_none_iff] at hnext
    have hlast : raw.getLast? = some t := by
      rw [List.getLast?_eq_getElem?, ← ht]
      congr 1
      omega
    exact absurd htag (tags_of_getLast? h hlast)

theorem follows_of_getElem? {text : List Char} {raw : List Token} (h : splitRec rules text = .ok raw)
    {i : Nat} {t u : Token} (ht : raw[i]? = some t) (hu : raw[i + 1]? = some u) : Follows t u := by
  obtain ⟨_, rfl⟩ := List.getElem?_eq_some_iff.mp ht
  obtain ⟨hlt, rfl⟩ := List.getElem?_eq_some_iff.mp hu
  exact List.isChain_iff_getElem.mp (isChain_follows h) i hlt

/-! ## Calls are told from variables -/

/-- A tagged token has the first tag of its raw token, which is all that one has. -/
theorem tags_of_head?_tagWord {text : List Char} {raw : List Token}
    (h : splitRec rules text = .ok raw) {t : Token} (ht : t ∈ raw) {tag : String}
    (htag : (tagWord keywords t).tags.head? = some tag) : t.tags = [tag] := by
  obtain ⟨_, tag', htags, _⟩ := isRaw_of_splitRec h t ht
  have hhead : (tagWord keywords t).tags.head? = t.tags.head? :=
    view_tagWord (·.tags.head?) (fun u => u.head?_addTag _) (fun u => u.head?_addTag _) keywords t
  rw [hhead, htags] at htag
  rw [htags, Option.some.inj htag]

/-- **Calls are told from variables exactly**: after a `method` comes an operator that starts with an
open parenthesis, and what comes after a `var` does not start with one. -/
theorem calls_followed (source : List Char) : ∃ ts, tokenize grammar source false = .ok ts ∧
    (∀ i t, ts[i]? = some t → t.tags.head? = some "method" → ∃ u, ts[i + 1]? = some u ∧
      u.hasTag "operator" = true ∧ u.content.head? = some '(') ∧
    ∀ i t u, ts[i]? = some t → ts[i + 1]? = some u → t.tags.head? = some "var" →
      u.content.head? ≠ some '(' := by
  obtain ⟨raw, hraw, hok⟩ := exists_tokenize source
  refine ⟨_, hok, ?_, ?_⟩
  · intro i t ht htag
    rw [List.getElem?_map] at ht
    obtain ⟨t₀, ht₀, rfl⟩ := Option.map_eq_some_iff.mp ht
    have htags := tags_of_head?_tagWord hraw (List.mem_of_getElem? ht₀) htag
    obtain ⟨u, hu⟩ := exists_next hraw ht₀ htags
    obtain ⟨hoperator, hparen⟩ := (follows_of_getElem? hraw ht₀ hu).method htags
    refine ⟨tagWord keywords u, by rw [List.getElem?_map, hu, Option.map_some], ?_, ?_⟩
    · have hkept : (tagWord keywords u).hasTag "operator" = u.hasTag "operator" :=
        view_tagWord (·.hasTag "operator") (Token.hasTag_addTag_of_ne (by decide))
          (Token.hasTag_addTag_of_ne (by decide)) keywords u
      rw [hkept, Token.hasTag, hoperator]
      rfl
    · rw [content_tagWord, hparen]
  · intro i t u ht hu htag
    rw [List.getElem?_map] at ht hu
    obtain ⟨t₀, ht₀, rfl⟩ := Option.map_eq_some_iff.mp ht
    obtain ⟨u₀, hu₀, rfl⟩ := Option.map_eq_some_iff.mp hu
    have htags := tags_of_head?_tagWord hraw (List.mem_of_getElem? ht₀) htag
    rw [content_tagWord]
    exact (follows_of_getElem? hraw ht₀ hu₀).variableName htags

/-- A number that cuts a name in two: what is before it ends the text that was skipped there and is a
variable, though a parenthesis opens after the rest of the name. -/
theorem calls_followed_cut : ∃ ts, tokenize grammar ['x', '1', 'e', '2', 'y', '('] false = .ok ts ∧
    (∃ t u, ts[2]? = some t ∧ t.tags = ["method"] ∧ ts[3]? = some u ∧ u.content.head? = some '(') ∧
    ∃ t u, ts[0]? = some t ∧ t.tags = ["var"] ∧ ts[1]? = some u ∧ u.content.head? ≠ some '(' := by
  have htokens : tokenize grammar ['x', '1', 'e', '2', 'y', '('] false =
      .ok [.single ['x'] "var", .single ['1', 'e', '2'] "number", .single ['y'] "method",
        .single ['('] "operator"] := Except.toOption_eq_some.mp (by decide +kernel)
  obtain ⟨ts, hok, hcalls, hvariables⟩ := calls_followed ['x', '1', 'e', '2', 'y', '(']
  obtain rfl := Except.ok.inj (hok.symm.trans htokens)
  obtain ⟨u, hu, _, hparen⟩ := hcalls 2 _ rfl rfl
  exact ⟨_, hok, ⟨_, u, rfl, rfl, hu, hparen⟩, _, _, rfl, rfl, rfl, hvariables 0 _ _ rfl rfl rfl⟩

end Highlight.Lua
