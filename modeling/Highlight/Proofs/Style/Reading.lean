import Highlight.Proofs.Runs
import Highlight.Proofs.Style.Color
import Highlight.Style.Render

/-!
# Markup read back

A display surface reads markup from left to right: it keeps the tags that are open, the innermost
first, takes each entity for its character, and gives every character the style of the tags around it
(`Markup.readFrom`).  It knows no other tags than those of its markup and no closing tag but that of the
innermost tag that is open, and takes none of the five characters that have an entity as it stands.

What is rendered is text for such a reader: read in front of anything, it gives its characters in the
style of the open tags and leaves these as they were (`Markup.Reads`).  Escaped characters do
(`Markup.reads_escape`), a tag around such a text does (`Markup.Reads.wrap`), and so do tokens
(`reads_render`).
-/

namespace Highlight

open Text

/-! ## Styles -/

/-- How a character looks. -/
structure Style where
  color : Option Color := none
  italic : Bool := false
  bold : Bool := false
  deriving DecidableEq, Repr

/-- The style of a token: that of the first rule of the theme whose tag it carries, if there is one. -/
def Theme.styleFor (theme : Theme) (t : Token) : Style :=
  match theme.rules.find? fun rule => decide (rule.tag ∈ t.tags) with
  | none => {}
  | some rule => { color := some rule.color, italic := rule.italic, bold := rule.bold }

/-- The characters of tokens, each with its style. -/
def Theme.styledChars (theme : Theme) (ts : List Token) : List (Char × Style) :=
  ts.flatMap fun t => t.content.map (·, theme.styleFor t)

/-- The first rule for some tags is the first one whose tag is among them. -/
theorem Theme.ruleFor_eq (theme : Theme) (tags : List String) :
    theme.ruleFor tags = theme.rules.find? fun rule => decide (rule.tag ∈ tags) := by
  rw [ruleFor]
  congr 1
  funext rule
  rw [Bool.eq_iff_iff, List.contains_iff_mem, decide_eq_true_eq]

theorem Theme.map_fst_styledChars (theme : Theme) (ts : List Token) :
    (theme.styledChars ts).map Prod.fst = contents ts := map_fst_charsWith ts

namespace Markup

/-! ## The reader -/

/-- A tag that can be open. -/
inductive Tag where
  | bold
  | italic
  | color (c : Color)
  deriving DecidableEq, Repr

/-- The texts that open and close a tag. -/
def wrapper (m : Markup) : Tag → Wrapper
  | .bold => m.bold
  | .italic => m.italic
  | .color c => m.color c

/-- The style inside open tags, the innermost first. -/
def styleIn : List Tag → Style
  | [] => {}
  | .bold :: tags => { styleIn tags with bold := true }
  | .italic :: tags => { styleIn tags with italic := true }
  | .color c :: tags => { styleIn tags with color := some c }

/-- The entities. -/
def entities : List (List Char × Char) :=
  [("&lt;".toList, '<'), ("&gt;".toList, '>'), ("&amp;".toList, '&'), ("&quot;".toList, '"'),
    ("&apos;".toList, '\'')]

/-- A text after a part that it starts with. -/
def after? (start text : List Char) : Option (List Char) :=
  if start ≠ [] ∧ start.isPrefixOf text then some (text.drop start.length) else none

/-- The character of the entity that a text starts with, and the text after it. -/
def entity? (text : List Char) : Option (Char × List Char) :=
  entities.findSome? fun e => (after? e.1 text).map (e.2, ·)

/-- The color that a text opens, and the text after the tag. -/
def colorTag? (m : Markup) (text : List Char) : Option (Tag × List Char) := do
  let digits ← after? m.colorStart text
  let color ← (Color.ofHex (digits.take 6)).toOption
  let rest ← after? m.colorEnd (digits.drop 6)
  return (.color color, rest)

/-- The tag that a text opens, and the text after the tag. -/
def openTag? (m : Markup) (text : List Char) : Option (Tag × List Char) :=
  ((after? m.bold.opening text).map (.bold, ·)).or
    (((after? m.italic.opening text).map (.italic, ·)).or (m.colorTag? text))

/-- The text after the end of the innermost open tag, if it ends here. -/
def closed? (m : Markup) (tags : List Tag) (text : List Char) : Option (List Char) :=
  tags.head?.bind fun tag => after? (m.wrapper tag).closing text

/-- What a reader finds. -/
inductive Mark where
  | char (c : Char)
  | opening (tag : Tag)
  | closing

/-- What a text starts with inside open tags, and the text after it. -/
def mark? (m : Markup) (tags : List Tag) : List Char → Option (Mark × List Char)
  | [] => none
  | '<' :: rest =>
    ((m.closed? tags ('<' :: rest)).map (.closing, ·)).or
      ((m.openTag? ('<' :: rest)).map fun found => (.opening found.1, found.2))
  | '&' :: rest => (entity? ('&' :: rest)).map fun found => (.char found.1, found.2)
  | c :: rest => if c ∈ ['>', '"', '\''] then none else some (.char c, rest)

/-! ### Reading moves on -/

theorem length_of_after? {start text rest : List Char} (h : after? start text = some rest) :
    rest.length < text.length := by
  unfold after? at h
  split at h
  · next hstart =>
    obtain rfl := Option.some.inj h
    have hpos := List.length_pos_iff.mpr hstart.1
    have hle := (List.isPrefixOf_iff_prefix.mp hstart.2).length_le
    rw [List.length_drop]
    omega
  · exact absurd h (by simp)

theorem length_of_entity? {text : List Char} {found : Char × List Char}
    (h : entity? text = some found) : found.2.length < text.length := by
  obtain ⟨e, _, hmap⟩ := List.exists_of_findSome?_eq_some h
  obtain ⟨rest, hrest, rfl⟩ := Option.map_eq_some_iff.mp hmap
  exact length_of_after? hrest

theorem length_of_openTag? {m : Markup} {text : List Char} {found : Tag × List Char}
    (h : m.openTag? text = some found) : found.2.length < text.length := by
  rcases Option.or_eq_some_iff.mp h with h | ⟨_, h⟩
  · obtain ⟨rest, hrest, rfl⟩ := Option.map_eq_some_iff.mp h
    exact length_of_after? hrest
  rcases Option.or_eq_some_iff.mp h with h | ⟨_, h⟩
  · obtain ⟨rest, hrest, rfl⟩ := Option.map_eq_some_iff.mp h
    exact length_of_after? hrest
  · obtain ⟨digits, hdigits, h⟩ := Option.bind_eq_some_iff.mp h
    obtain ⟨color, _, h⟩ := Option.bind_eq_some_iff.mp h
    obtain ⟨rest, hrest, h⟩ := Option.bind_eq_some_iff.mp h
    obtain rfl := Option.some.inj h
    have hstart := length_of_after? hdigits
    have hend := length_of_after? hrest
    rw [List.length_drop] at hend
    show rest.length < text.length
    omega

theorem length_of_mark? {m : Markup} {tags : List Tag} {text : List Char} {found : Mark × List Char}
    (h : m.mark? tags text = some found) : found.2.length < text.length := by
  unfold mark? at h
  split at h
  · exact absurd h (by simp)
  · rcases Option.or_eq_some_iff.mp h with h | ⟨_, h⟩
    · obtain ⟨rest, hrest, rfl⟩ := Option.map_eq_some_iff.mp h
      obtain ⟨tag, _, hafter⟩ := Option.bind_eq_some_iff.mp hrest
      exact length_of_after? hafter
    · obtain ⟨found, hopen, rfl⟩ := Option.map_eq_some_iff.mp h
      exact length_of_openTag? hopen
  · obtain ⟨found, hentity, rfl⟩ := Option.map_eq_some_iff.mp h
    exact length_of_entity? hentity
  · split at h
    · exact absurd h (by simp)
    · obtain rfl := Option.some.inj h
      exact Nat.lt_succ_self _

/-- The characters of a text with their styles, inside open tags, and the tags open at its end. -/
def readFrom (m : Markup) (tags : List Tag) (text : List Char) :
    Option (List (Char × Style) × List Tag) :=
  if text = [] then some ([], tags)
  else
    match _h : m.mark? tags text with
    | none => none
    | some (.char c, rest) =>
      (m.readFrom tags rest).map fun (chars, left) => ((c, styleIn tags) :: chars, left)
    | some (.opening tag, rest) => m.readFrom (tag :: tags) rest
    | some (.closing, rest) => m.readFrom tags.tail rest
termination_by text.length
decreasing_by
  all_goals exact length_of_mark? _h

/-- The characters of a text with their styles, if every tag that it opens is closed. -/
def read (m : Markup) (text : List Char) : Option (List (Char × Style)) :=
  match m.readFrom [] text with
  | some (chars, []) => some chars
  | _ => none

/-! ### What the reader does with a mark -/

section Mark

variable {m : Markup} {tags : List Tag} {text rest : List Char}

theorem readFrom_nil (m : Markup) (tags : List Tag) : m.readFrom tags [] = some ([], tags) := by
  rw [readFrom, if_pos rfl]

theorem ne_nil_of_mark? {found : Mark × List Char} (h : m.mark? tags text = some found) : text ≠ [] := by
  rintro rfl
  exact absurd h (by simp [mark?])

theorem readFrom_of_char {c : Char} (h : m.mark? tags text = some (.char c, rest)) :
    m.readFrom tags text =
      (m.readFrom tags rest).map fun (chars, left) => ((c, styleIn tags) :: chars, left) := by
  rw [readFrom, if_neg (ne_nil_of_mark? h)]
  split <;> simp_all

theorem readFrom_of_opening {tag : Tag} (h : m.mark? tags text = some (.opening tag, rest)) :
    m.readFrom tags text = m.readFrom (tag :: tags) rest := by
  rw [readFrom, if_neg (ne_nil_of_mark? h)]
  split <;> simp_all

theorem readFrom_of_closing (h : m.mark? tags text = some (.closing, rest)) :
    m.readFrom tags text = m.readFrom tags.tail rest := by
  rw [readFrom, if_neg (ne_nil_of_mark? h)]
  split <;> simp_all

end Mark

/-! ## Texts that are read as characters -/

/-- Inside open tags a text is read as some characters, whatever comes after it, and leaves the open tags
as they were. -/
def Reads (m : Markup) (tags : List Tag) (text : List Char) (chars : List (Char × Style)) : Prop :=
  ∀ rest, m.readFrom tags (text ++ rest) =
    (m.readFrom tags rest).map fun (more, left) => (chars ++ more, left)

namespace Reads

variable {m : Markup} {tags : List Tag} {text more : List Char} {chars chars' : List (Char × Style)}

theorem nil (m : Markup) (tags : List Tag) : m.Reads tags [] [] :=
  fun _ => Option.map_id'.symm

theorem append (h : m.Reads tags text chars) (h' : m.Reads tags more chars') :
    m.Reads tags (text ++ more) (chars ++ chars') := by
  intro rest
  rw [List.append_assoc, h, h', Option.map_map]
  congr 1
  funext found
  simp

/-- What is read as characters when no tag is open is read as a whole. -/
theorem readFrom (h : m.Reads [] text chars) : m.readFrom [] text = some (chars, []) := by
  have hread := h []
  rw [List.append_nil, readFrom_nil] at hread
  rw [hread]
  simp

theorem read (h : m.Reads [] text chars) : m.read text = some chars := by
  rw [Markup.read, h.readFrom]

end Reads

/-! ### Escaped text -/

/-- **The entity of a character is read as the character, and so is a character without one.** -/
theorem mark?_escapeChar (m : Markup) (tags : List Tag) (c : Char) (rest : List Char) :
    m.mark? tags (escapeChar c ++ rest) = some (.char c, rest) := by
  unfold escapeChar
  split
  · rfl
  · rfl
  · rfl
  · rfl
  · rfl
  · next hlt hgt hamp hquot hapos =>
    show m.mark? tags (c :: rest) = _
    unfold mark?
    split
    · next h => exact absurd h (by simp)
    · next h => exact absurd (List.cons.inj h).1 hlt
    · next h => exact absurd (List.cons.inj h).1 hamp
    · next h =>
      obtain ⟨rfl, rfl⟩ := List.cons.inj h
      have hplain : c ∉ ['>', '"', '\''] := by
        simp only [List.mem_cons, List.not_mem_nil, or_false, not_or]
        exact ⟨hgt, hquot, hapos⟩
      exact if_neg hplain

/-- **Escaped text is read as the text**, in the style of the open tags. -/
theorem reads_escape (m : Markup) (tags : List Tag) : ∀ text : List Char,
    m.Reads tags (escape text) (text.map (·, styleIn tags))
  | [] => Reads.nil m tags
  | c :: text => by
    have hchar : m.Reads tags (escapeChar c) [(c, styleIn tags)] := fun rest =>
      readFrom_of_char (mark?_escapeChar m tags c rest)
    rw [escape, List.flatMap_cons]
    exact hchar.append (reads_escape m tags text)

/-! ### Tags -/

theorem after?_append {start : List Char} (h : start ≠ []) (rest : List Char) :
    after? start (start ++ rest) = some rest := by
  have hstart : start.isPrefixOf (start ++ rest) = true :=
    List.isPrefixOf_iff_prefix.mpr (List.prefix_append _ _)
  rw [after?, if_pos ⟨h, hstart⟩, List.drop_left]

/-- A tag for a color is read with the color. -/
theorem colorTag?_append {m : Markup} (hstart : m.colorStart ≠ []) (hend : m.colorEnd ≠ []) (c : Color)
    (rest : List Char) : m.colorTag? ((m.color c).opening ++ rest) = some (.color c, rest) := by
  have hsix : c.toHex.length = 6 := rfl
  have hopening : (m.color c).opening ++ rest = m.colorStart ++ (c.toHex ++ (m.colorEnd ++ rest)) := by
    simp [color]
  simp only [colorTag?, hopening, after?_append hstart, Option.bind_eq_bind, Option.bind_some,
    List.take_left' hsix, List.drop_left' hsix, Color.ofHex_toHex, Except.toOption, after?_append hend]
  rfl

section Builtin

variable {m : Markup} {text : List Char} {chars : List (Char × Style)}

theorem mem_builtin (h : m ∈ builtin) : m = html ∨ m = richText := by
  simpa [builtin] using h

/-- The opening text of a tag is read as such, whatever tags are open: no closing text is the start of
it. -/
theorem mark?_opening (hm : m ∈ builtin) (tags : List Tag) (tag : Tag) (rest : List Char) :
    m.mark? tags ((m.wrapper tag).opening ++ rest) = some (.opening tag, rest) := by
  have hclosed : m.closed? tags ((m.wrapper tag).opening ++ rest) = none := by
    rcases mem_builtin hm with rfl | rfl
    all_goals
      cases tags with
      | nil => rfl
      | cons open' _ => cases open' <;> cases tag <;> rfl
  have hopen : m.openTag? ((m.wrapper tag).opening ++ rest) = some (tag, rest) := by
    rcases mem_builtin hm with rfl | rfl
    all_goals
      cases tag with
      | bold => rfl
      | italic => rfl
      | color c => exact colorTag?_append (by decide) (by decide) c rest
  have hless : ∃ more, (m.wrapper tag).opening ++ rest = '<' :: more := by
    rcases mem_builtin hm with rfl | rfl
    all_goals cases tag <;> exact ⟨_, rfl⟩
  obtain ⟨more, hmore⟩ := hless
  rw [hmore] at hclosed hopen ⊢
  rw [mark?, hclosed, hopen]
  rfl

/-- The closing text of the innermost open tag is read as such. -/
theorem mark?_closing (hm : m ∈ builtin) (tag : Tag) (tags : List Tag) (rest : List Char) :
    m.mark? (tag :: tags) ((m.wrapper tag).closing ++ rest) = some (.closing, rest) := by
  have hclosed : m.closed? (tag :: tags) ((m.wrapper tag).closing ++ rest) = some rest := by
    rcases mem_builtin hm with rfl | rfl
    all_goals cases tag <;> rfl
  have hless : ∃ more, (m.wrapper tag).closing ++ rest = '<' :: more := by
    rcases mem_builtin hm with rfl | rfl
    all_goals cases tag <;> exact ⟨_, rfl⟩
  obtain ⟨more, hmore⟩ := hless
  rw [hmore] at hclosed ⊢
  rw [mark?, hclosed]
  rfl

/-- **A tag around a text gives its style to the text**, and is closed after it. -/
theorem Reads.wrap (hm : m ∈ builtin) {tags : List Tag} (tag : Tag)
    (h : m.Reads (tag :: tags) text chars) : m.Reads tags ((m.wrapper tag).wrap text) chars := by
  intro rest
  rw [Wrapper.wrap, List.append_assoc, List.append_assoc,
    readFrom_of_opening (mark?_opening hm tags tag _), h, readFrom_of_closing (mark?_closing hm tag tags _)]
  rfl

/-! ## Rendered tokens -/

/-- A text in the style of a rule is read in that style. -/
theorem reads_apply (hm : m ∈ builtin) (rule : ThemeRule) (text : List Char) :
    m.Reads [] (rule.apply m (escape text)) (text.map
      (·, { color := some rule.color, italic := rule.italic, bold := rule.bold })) := by
  obtain ⟨tag, color, italic, bold⟩ := rule
  -- color is the innermost tag, then italics, then bold
  have hcolor : ∀ tags, m.Reads tags ((m.color color).wrap (escape text))
      (text.map (·, styleIn (.color color :: tags))) :=
    fun tags => (reads_escape m _ text).wrap hm (.color color)
  cases italic with
  | false =>
    cases bold with
    | false => exact hcolor []
    | true => exact (hcolor [.bold]).wrap hm .bold
  | true =>
    cases bold with
    | false => exact (hcolor [.italic]).wrap hm .italic
    | true => exact ((hcolor [.italic, .bold]).wrap hm .italic).wrap hm .bold

/-- A token is read in its style. -/
theorem reads_renderToken (hm : m ∈ builtin) (theme : Theme) (t : Token) :
    m.Reads [] (renderToken theme m escape t) (t.content.map (·, theme.styleFor t)) := by
  rw [renderToken, Theme.styleFor, ← theme.ruleFor_eq]
  cases theme.ruleFor t.tags with
  | none => exact reads_escape m [] t.content
  | some rule => exact reads_apply hm rule t.content

theorem render_cons (t : Token) (ts : List Token) (theme : Theme) (m : Markup) :
    render (t :: ts) theme m = renderToken theme m escape t ++ render ts theme m := rfl

theorem render_append (ts us : List Token) (theme : Theme) (m : Markup) :
    render (ts ++ us) theme m = render ts theme m ++ render us theme m := List.flatMap_append

/-- **Tokens are read as their characters, each in the style of its token.** -/
theorem reads_render (hm : m ∈ builtin) (theme : Theme) : ∀ ts : List Token,
    m.Reads [] (render ts theme m) (theme.styledChars ts)
  | [] => Reads.nil m []
  | t :: ts => by
    rw [render_cons, Theme.styledChars, List.flatMap_cons]
    exact (reads_renderToken hm theme t).append (reads_render hm theme ts)

end Builtin

end Markup

end Highlight
