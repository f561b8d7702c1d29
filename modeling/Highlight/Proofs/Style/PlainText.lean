import Highlight.Proofs.Style.Reading

/-!
# The plain text of markup

The characters of what is rendered come back also without a reader of tags: by deleting all that stands
in angle brackets (`Markup.stripTags_render`), since escaped text has none of these, and by putting
characters for entities (`Markup.unescape_escape`).

With the reader it follows that rendering can be undone (`read_render`).
-/

namespace Highlight

open Text

namespace Markup

/-! ## Text without tags -/

/-- A text without what stands in angle brackets; `inside` tells whether it starts inside of them. -/
def stripFrom (inside : Bool) : List Char → List Char
  | [] => []
  | c :: rest =>
    if inside then stripFrom (c ≠ '>') rest
    else if c = '<' then stripFrom true rest else c :: stripFrom false rest

/-- A text without its tags. -/
def stripTags (text : List Char) : List Char := stripFrom false text

/-- A text with characters for its entities; an ampersand that starts none stays as it is. -/
def unescape (text : List Char) : List Char :=
  match _h : entity? text with
  | some (c, rest) => c :: unescape rest
  | none =>
    match text with
    | [] => []
    | c :: rest => c :: unescape rest
termination_by text.length
decreasing_by
  · exact length_of_entity? _h
  · exact Nat.lt_succ_self _

/-! ### Tags are deleted -/

/-- What stands in angle brackets is deleted. -/
theorem stripFrom_inside {name : List Char} (h : '>' ∉ name) (rest : List Char) :
    stripFrom true (name ++ '>' :: rest) = stripFrom false rest := by
  induction name with
  | nil => rfl
  | cons c name ih =>
    have hc : c ≠ '>' := Ne.symm (List.ne_of_not_mem_cons h)
    rw [List.cons_append, stripFrom, if_pos rfl, decide_eq_true hc]
    exact ih (List.not_mem_of_not_mem_cons h)

/-- A text is a tag: all of it stands in angle brackets. -/
def IsTag (text : List Char) : Prop := ∃ name, '>' ∉ name ∧ text = '<' :: name ++ ['>']

theorem IsTag.stripTags {text : List Char} (h : IsTag text) (rest : List Char) :
    stripTags (text ++ rest) = stripTags rest := by
  obtain ⟨name, hname, rfl⟩ := h
  have hjoin : '<' :: name ++ ['>'] ++ rest = '<' :: (name ++ '>' :: rest) := by simp
  rw [hjoin]
  exact stripFrom_inside hname rest

/-- A tag for a color is one tag: its digits do not end it. -/
theorem isTag_color {m : Markup} {start : List Char} (hstart : m.colorStart = '<' :: start)
    (hname : '>' ∉ start) (hend : m.colorEnd = ['"', '>']) (c : Color) : IsTag (m.color c).opening := by
  refine ⟨start ++ c.toHex ++ ['"'], ?_, ?_⟩
  · simp only [List.mem_append, not_or]
    exact ⟨⟨hname, c.not_mem_toHex (by simp)⟩, by simp⟩
  · simp [color, hstart, hend]

/-- The texts that a built-in markup puts around others are tags. -/
theorem isTag_wrapper {m : Markup} (hm : m ∈ builtin) (tag : Tag) :
    IsTag (m.wrapper tag).opening ∧ IsTag (m.wrapper tag).closing := by
  rcases mem_builtin hm with rfl | rfl
  · cases tag with
    | bold => exact ⟨⟨['b'], by decide, rfl⟩, ⟨['/', 'b'], by decide, rfl⟩⟩
    | italic => exact ⟨⟨['i'], by decide, rfl⟩, ⟨['/', 'i'], by decide, rfl⟩⟩
    | color c => exact ⟨isTag_color rfl (by decide) rfl c, ⟨"/span".toList, by decide, rfl⟩⟩
  · cases tag with
    | bold => exact ⟨⟨['b'], by decide, rfl⟩, ⟨['/', 'b'], by decide, rfl⟩⟩
    | italic => exact ⟨⟨['i'], by decide, rfl⟩, ⟨['/', 'i'], by decide, rfl⟩⟩
    | color c => exact ⟨isTag_color rfl (by decide) rfl c, ⟨"/font".toList, by decide, rfl⟩⟩

/-- Text without angle brackets stays. -/
theorem stripTags_append {text : List Char} (h : '<' ∉ text) (rest : List Char) :
    stripTags (text ++ rest) = text ++ stripTags rest := by
  induction text with
  | nil => rfl
  | cons c text ih =>
    have hc : c ≠ '<' := Ne.symm (List.ne_of_not_mem_cons h)
    show (if c = '<' then _ else c :: stripTags (text ++ rest)) = _
    rw [if_neg hc, ih (List.not_mem_of_not_mem_cons h)]
    rfl

/-- Escaped text opens no tag. -/
theorem not_mem_escape (text : List Char) : '<' ∉ escape text := by
  intro h
  obtain ⟨c, _, hc⟩ := List.mem_flatMap.mp h
  unfold escapeChar at hc
  split at hc
  case h_6 hlt _ _ _ _ =>
    exact hlt (List.mem_singleton.mp hc).symm
  all_goals exact absurd hc (by decide)

/-- A text that is some other text between tags, read in front of anything. -/
def Strips (marked text : List Char) : Prop :=
  ∀ rest, stripTags (marked ++ rest) = text ++ stripTags rest

theorem strips_escape (text : List Char) : Strips (escape text) (escape text) :=
  stripTags_append (not_mem_escape text)

theorem Strips.wrap {m : Markup} (hm : m ∈ builtin) {marked text : List Char} (tag : Tag)
    (h : Strips marked text) : Strips ((m.wrapper tag).wrap marked) text := by
  obtain ⟨hopening, hclosing⟩ := isTag_wrapper hm tag
  intro rest
  rw [Wrapper.wrap, List.append_assoc, List.append_assoc, hopening.stripTags, h, hclosing.stripTags]

theorem strips_renderToken {m : Markup} (hm : m ∈ builtin) (theme : Theme) (t : Token) :
    Strips (renderToken theme m escape t) (escape t.content) := by
  rw [renderToken]
  split
  · exact strips_escape t.content
  · next rule _ =>
    have hcolor := (strips_escape t.content).wrap hm (.color rule.color)
    have hitalic : Strips (if rule.italic then m.italic.wrap ((m.color rule.color).wrap (escape t.content))
        else (m.color rule.color).wrap (escape t.content)) (escape t.content) := by
      split
      · exact hcolor.wrap hm .italic
      · exact hcolor
    rw [ThemeRule.apply]
    split
    · exact hitalic.wrap hm .bold
    · exact hitalic

theorem escape_append (text more : List Char) : escape (text ++ more) = escape text ++ escape more :=
  List.flatMap_append

/-- **Without its tags, what is rendered is the escaped text of the tokens.** -/
theorem stripTags_render {m : Markup} (hm : m ∈ builtin) (theme : Theme) : ∀ ts : List Token,
    stripTags (render ts theme m) = escape (contents ts)
  | [] => rfl
  | t :: ts => by
    have hcontents : contents (t :: ts) = t.content ++ contents ts := List.flatMap_cons
    rw [render_cons, strips_renderToken hm theme t, stripTags_render hm theme ts, hcontents,
      escape_append]

/-! ### Entities are replaced -/

theorem unescape_of_entity {text rest : List Char} {c : Char} (h : entity? text = some (c, rest)) :
    unescape text = c :: unescape rest := by
  rw [unescape]
  split
  · next h' =>
    obtain ⟨rfl, rfl⟩ := Prod.mk.inj (Option.some.inj (h.symm.trans h'))
    rfl
  · next h' => exact absurd (h.symm.trans h') (by simp)

/-- An entity starts with an ampersand. -/
theorem entity?_cons {c : Char} (h : c ≠ '&') (rest : List Char) : entity? (c :: rest) = none := by
  refine List.findSome?_eq_none_iff.mpr fun e he => ?_
  have hstart : ∀ e ∈ entities, e.1.head? = some '&' := by decide
  obtain ⟨name, hname⟩ := List.head?_eq_some_iff.mp (hstart e he)
  have hnot : (e.1.isPrefixOf (c :: rest)) = false := by
    rw [hname, List.isPrefixOf, beq_false_of_ne (Ne.symm h), Bool.false_and]
  rw [after?, if_neg (by rw [hnot]; simp), Option.map_none]

theorem unescape_cons {c : Char} (h : c ≠ '&') (rest : List Char) :
    unescape (c :: rest) = c :: unescape rest := by
  rw [unescape]
  split
  · next h' => exact absurd ((entity?_cons h rest).symm.trans h') (by simp)
  · rfl

theorem unescape_escapeChar (c : Char) (rest : List Char) :
    unescape (escapeChar c ++ rest) = c :: unescape rest := by
  unfold escapeChar
  split
  case h_6 _ _ hamp _ _ => exact unescape_cons hamp rest
  all_goals exact unescape_of_entity rfl

/-- **Putting characters for entities undoes escaping.** -/
theorem unescape_escape : ∀ text : List Char, unescape (escape text) = text
  | [] => by rw [escape, List.flatMap_nil, unescape]; rfl
  | c :: text => by
    rw [escape, List.flatMap_cons, unescape_escapeChar, ← escape, unescape_escape text]

/-- **Without tags and entities, what is rendered is the text of the tokens.** -/
theorem unescape_stripTags_render {m : Markup} (hm : m ∈ builtin) (theme : Theme) (ts : List Token) :
    unescape (stripTags (render ts theme m)) = contents ts := by
  rw [stripTags_render hm, unescape_escape]

end Markup

/-! ## Rendering can be undone -/

/-- **What is rendered is read back as the characters of the tokens, each in the style that the theme
gives to its token**, whatever the characters are.  Between the texts of two tokens no tag is open.
Without tags and entities the text of the tokens is left. -/
theorem read_render {m : Markup} (hm : m ∈ Markup.builtin) (theme : Theme) (ts : List Token) :
    m.read (render ts theme m) = some (theme.styledChars ts) ∧
    (theme.styledChars ts).map Prod.fst = contents ts ∧
    (∀ us vs, ts = us ++ vs → render ts theme m = render us theme m ++ render vs theme m ∧
      m.readFrom [] (render us theme m) = some (theme.styledChars us, [])) ∧
    Markup.unescape (Markup.stripTags (render ts theme m)) = contents ts := by
  refine ⟨?_, theme.map_fst_styledChars ts, ?_, Markup.unescape_stripTags_render hm theme ts⟩
  · rw [Markup.read, (Markup.reads_render hm theme ts).readFrom]
  · rintro us vs rfl
    exact ⟨Markup.render_append us vs theme m, (Markup.reads_render hm theme us).readFrom⟩

/-- A closing tag and an entity in the content of a token in bold italics, before one without a rule. -/
theorem read_render_closingTag :
    let theme : Theme := ⟨"bold", [{ tag := "null", color := ⟨1, 2, 171⟩, italic := true, bold := true }]⟩
    let ts : List Token := [.single "</b>&lt;".toList "null", .single ['\''] "ind"]
    let styled : Style := { color := some ⟨1, 2, 171⟩, italic := true, bold := true }
    Markup.html ∈ Markup.builtin ∧
    render ts theme .html = ("<b><i><span style=\"color: #0102AB\">" ++
      "&lt;/b&gt;&amp;lt;</span></i></b>&apos;").toList ∧
    Markup.html.read (render ts theme .html) =
      some ("</b>&lt;".toList.map (·, styled) ++ [('\'', ({} : Style))]) ∧
    Markup.unescape (Markup.stripTags (render ts theme .html)) = "</b>&lt;'".toList := by
  intro theme ts styled
  have hm : Markup.html ∈ Markup.builtin := List.mem_cons_self
  obtain ⟨hread, _, _, hplain⟩ := read_render hm theme ts
  exact ⟨hm, rfl, hread, hplain⟩

end Highlight
