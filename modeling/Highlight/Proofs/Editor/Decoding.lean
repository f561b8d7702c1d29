import Highlight.Editor.SemanticTokens
import Highlight.Proofs.Text.Lines
import Highlight.Text.Position
import Mathlib.Data.List.Forall2

/-!
# Semantic tokens read back

An editor adds up the differences in the list of numbers and gets ranges on the lines of the text
(`decode`).  Their places can be told from the text alone: the tokens fall into pieces of lines
(`pieces`), each of which knows the text before it, and a piece that is shown has the range at the end
of that text (`Piece.range?`).

Encoding goes through the tokens with a cursor.  After some text the cursor stands at the end of that
text and not before the last range (`Cursor.At`), so no difference is cut off at zero.  This is kept by
each piece (`encodePiece_gives`), hence by each token and by the whole list (`decode_encode`).
-/

namespace Highlight.SemanticTokens

open Text

/-! ## Decoding -/

/-- A stretch of a line of a text and how an editor colors it; lines and columns count from 0. -/
structure Range where
  line : Nat
  char : Nat
  length : Nat
  kind : Nat
  modifiers : Nat
  deriving DecidableEq, Repr

/-- The ranges that a list of numbers stands for, after a range that starts at a place. -/
def decodeFrom (line char : Nat) : List Nat → Option (List Range)
  | [] => some []
  | lines :: chars :: length :: kind :: modifiers :: rest =>
    let start := if lines = 0 then char + chars else chars
    (decodeFrom (line + lines) start rest).map (⟨line + lines, start, length, kind, modifiers⟩ :: ·)
  | _ => none

/-- The ranges that a list of numbers stands for. -/
def decode (data : List Nat) : Option (List Range) := decodeFrom 0 0 data

/-- Five numbers stand for one range. -/
theorem length_of_decodeFrom : ∀ {data : List Nat} {line char : Nat} {ranges : List Range},
    decodeFrom line char data = some ranges → data.length = 5 * ranges.length
  | [], _, _, _, h => by
    obtain rfl := Option.some.inj h
    rfl
  | lines :: chars :: length :: kind :: modifiers :: rest, _, _, _, h => by
    rw [decodeFrom] at h
    obtain ⟨more, hmore, rfl⟩ := Option.map_eq_some_iff.mp h
    have ih := length_of_decodeFrom hmore
    simp only [List.length_cons]
    omega
  | [_], _, _, _, h | [_, _], _, _, _, h | [_, _, _], _, _, _, h | [_, _, _, _], _, _, _, h =>
    absurd h (by simp [decodeFrom])

/-! ## Pieces of lines -/

/-- A piece of a token that lies on one line, and the text before it. -/
structure Piece where
  token : Token
  before : List Char
  text : List Char

/-- The pieces of a token after some text. -/
def linesFrom (t : Token) (before : List Char) : List (List Char) → List Piece
  | [] => []
  | line :: lines => ⟨t, before, line⟩ :: linesFrom t (before ++ line ++ ['\n']) lines

/-- The pieces of tokens after some text, each token cut at its line feeds. -/
def pieces (before : List Char) : List Token → List Piece
  | [] => []
  | t :: ts => linesFrom t before (splitAtChar '\n' t.content) ++ pieces (before ++ t.content) ts

namespace Piece

/-- What an editor shows of a piece: carriage returns at its end belong to the line end. -/
def shown (p : Piece) : List Char := dropTrailing '\r' p.text

/-- Whether an editor colors a piece: something of it is shown, and its token has a kind. -/
def isColored (p : Piece) : Bool := p.shown ≠ [] && kinds.any fun e => p.token.hasTag e.1

/-- The range of a piece, at the end of the text before it. -/
def range? (p : Piece) : Option Range :=
  if p.shown = [] then none
  else (classify p.token).map fun (kind, modifiers) =>
    ⟨p.before.count '\n', units16 (lastLine p.before), units16 p.shown, kind, modifiers⟩

end Piece

/-! ### The order of the pieces -/

/-- A piece lies before another one: it belongs to the text before that. -/
def Piece.Before (p q : Piece) : Prop := p.before ++ p.text <+: q.before

/-- The pieces after a line feed lie behind the text before it, and inside the text that they are cut
from. -/
theorem mem_linesFrom {t : Token} {p : Piece} : ∀ {lines : List (List Char)} {before : List Char},
    p ∈ linesFrom t (before ++ ['\n']) lines → p.text ∈ lines ∧ before <+: p.before ∧
      p.before ++ p.text <+: before ++ lines.flatMap ('\n' :: ·)
  | [], _, h => absurd h List.not_mem_nil
  | line :: lines, before, h => by
    have hjoin : before ++ (line :: lines).flatMap ('\n' :: ·) =
        before ++ ['\n'] ++ line ++ lines.flatMap ('\n' :: ·) := by simp
    rw [hjoin]
    rcases List.mem_cons.mp h with rfl | h
    · exact ⟨List.mem_cons_self, List.prefix_append _ _, List.prefix_append _ _⟩
    · obtain ⟨hmem, hbefore, hend⟩ := mem_linesFrom h
      rw [List.append_assoc] at hbefore
      exact ⟨List.mem_cons_of_mem line hmem, (List.prefix_append _ _).trans hbefore, hend⟩

theorem pairwise_linesFrom (t : Token) : ∀ (lines : List (List Char)) (before : List Char),
    (linesFrom t before lines).Pairwise Piece.Before
  | [], _ => List.Pairwise.nil
  | _ :: lines, _ =>
    List.Pairwise.cons (fun _ hq => (mem_linesFrom hq).2.1) (pairwise_linesFrom t lines _)

/-- The pieces of a token hold no line feed and lie inside its text. -/
theorem mem_linesFrom_splitAtChar {t : Token} {p : Piece} {before : List Char}
    (h : p ∈ linesFrom t before (splitAtChar '\n' t.content)) :
    '\n' ∉ p.text ∧ before <+: p.before ∧ p.before ++ p.text <+: before ++ t.content := by
  cases hcut : splitAtChar '\n' t.content with
  | nil => exact absurd hcut (splitAtChar_ne_nil '\n' t.content)
  | cons line lines =>
    have hnot : ∀ text ∈ line :: lines, '\n' ∉ text := fun text hmem =>
      not_mem_of_mem_splitAtChar (hcut ▸ hmem)
    rw [hcut] at h
    rw [eq_join_of_splitAtChar hcut, ← List.append_assoc]
    rcases List.mem_cons.mp h with rfl | h
    · exact ⟨hnot line List.mem_cons_self, List.prefix_refl _, List.prefix_append _ _⟩
    · obtain ⟨hmem, hbefore, hend⟩ := mem_linesFrom h
      exact ⟨hnot _ (List.mem_cons_of_mem line hmem), (List.prefix_append _ _).trans hbefore, hend⟩

/-- **A piece stands in the text at the end of what is before it**, and holds no line feed. -/
theorem mem_pieces {p : Piece} : ∀ {ts : List Token} {before : List Char}, p ∈ pieces before ts →
    '\n' ∉ p.text ∧ before <+: p.before ∧ p.before ++ p.text <+: before ++ contents ts
  | [], _, h => absurd h List.not_mem_nil
  | t :: ts, before, h => by
    have hcontents : before ++ contents (t :: ts) = before ++ t.content ++ contents ts := by
      simp [contents]
    rw [hcontents]
    rcases List.mem_append.mp h with h | h
    · obtain ⟨hnot, hbefore, hend⟩ := mem_linesFrom_splitAtChar h
      exact ⟨hnot, hbefore, hend.trans (List.prefix_append _ _)⟩
    · obtain ⟨hnot, hbefore, hend⟩ := mem_pieces h
      exact ⟨hnot, (List.prefix_append _ _).trans hbefore, hend⟩

/-- **The pieces come in the order of the text.** -/
theorem pairwise_pieces : ∀ (ts : List Token) (before : List Char),
    (pieces before ts).Pairwise Piece.Before
  | [], _ => List.Pairwise.nil
  | t :: ts, before => by
    refine List.pairwise_append.mpr ⟨pairwise_linesFrom t _ _, pairwise_pieces ts _, ?_⟩
    intro p hp q hq
    exact (mem_linesFrom_splitAtChar hp).2.2.trans (mem_pieces hq).2.1

/-! ### The order of the ranges -/

/-- A range ends before another one starts. -/
def Range.Before (r s : Range) : Prop :=
  r.line < s.line ∨ r.line = s.line ∧ r.char + r.length ≤ s.char

theorem Piece.range?_eq_some {p : Piece} {r : Range} (h : p.range? = some r) :
    p.shown ≠ [] ∧ classify p.token = some (r.kind, r.modifiers) ∧
      r.line = p.before.count '\n' ∧ r.char = units16 (lastLine p.before) ∧
      r.length = units16 p.shown := by
  unfold Piece.range? at h
  split at h
  · exact absurd h (by simp)
  · next hshown =>
    obtain ⟨⟨kind, modifiers⟩, hclass, rfl⟩ := Option.map_eq_some_iff.mp h
    exact ⟨hshown, hclass, rfl, rfl, rfl⟩

/-- The ranges of pieces in the order of the text do not overlap. -/
theorem Piece.Before.range {p q : Piece} {r s : Range} (hpq : p.Before q) (hline : '\n' ∉ p.text)
    (hp : p.range? = some r) (hq : q.range? = some s) : r.Before s := by
  obtain ⟨_, _, hrline, hrchar, hrlength⟩ := Piece.range?_eq_some hp
  obtain ⟨_, _, hsline, hschar, _⟩ := Piece.range?_eq_some hq
  obtain ⟨mid, hmid⟩ := hpq
  have hcount : s.line = r.line + mid.count '\n' := by
    rw [hsline, ← hmid, List.count_append, List.count_append, List.count_eq_zero_of_not_mem hline,
      hrline, Nat.add_zero]
  by_cases hlast : '\n' ∈ mid
  · have hpos := List.count_pos_iff.mpr hlast
    exact Or.inl (by omega)
  -- without a line feed in between, the text of the first piece stands in the last line
  · have hzero := List.count_eq_zero_of_not_mem hlast
    have hchar : s.char = r.char + units16 p.text + units16 mid := by
      rw [hschar, ← hmid, lastLine_append hlast, lastLine_append hline, units16_append,
        units16_append, hrchar]
    have hshown : units16 p.shown ≤ units16 p.text := units16_le_of_prefix (isPrefix_dropTrailing _ _)
    exact Or.inr ⟨by omega, by omega⟩

/-! ## What encoding gives -/

/-- The cursor after some text: it stands at the end of the text, and the last range starts at or
before it. -/
structure Cursor.At (s : Cursor) (before : List Char) : Prop where
  line : s.line = before.count '\n'
  char : s.char = units16 (Text.lastLine before)
  last : s.lastLine < s.line ∨ s.lastLine = s.line ∧ s.lastChar ≤ s.char

theorem Cursor.at_start : Cursor.At {} [] := ⟨rfl, rfl, Or.inr ⟨rfl, Nat.le_refl _⟩⟩

/-- A line feed moves the cursor to the start of the next line. -/
theorem Cursor.At.lineFeed {s : Cursor} {before : List Char} (h : s.At before) :
    Cursor.At { s with line := s.line + 1, char := 0 } (before ++ ['\n']) := by
  have hlast := h.last
  refine ⟨?_, ?_, Or.inl ?_⟩
  · rw [List.count_append, ← h.line]
    rfl
  · rw [lastLine_append_lineFeed]
    rfl
  · show s.lastLine < s.line + 1
    omega

/-- Some numbers, and the cursor after them, give pieces up to some text: an editor that has read
what came before reads the ranges of the pieces, and the cursor stands at the end of the text. -/
structure Gives (s : Cursor) (encoded : List Nat × Cursor) (ps : List Piece) (after : List Char) :
    Prop where
  stop : encoded.2.At after
  read : ∀ more, decodeFrom s.lastLine s.lastChar (encoded.1 ++ more) =
    (decodeFrom encoded.2.lastLine encoded.2.lastChar more).map (ps.filterMap Piece.range? ++ ·)

namespace Gives

/-- Nothing is given by no numbers. -/
theorem none {s : Cursor} {after : List Char} {ps : List Piece} (s' : Cursor) (h : s'.At after)
    (hlast : s'.lastLine = s.lastLine ∧ s'.lastChar = s.lastChar)
    (hps : ps.filterMap Piece.range? = []) : Gives s ([], s') ps after where
  stop := h
  read more := by
    rw [hps, hlast.1, hlast.2]
    exact Option.map_id'.symm

/-- What is given after one another is given in one go. -/
theorem append {s s₁ s₂ : Cursor} {data more : List Nat} {ps qs : List Piece} {mid after : List Char}
    (h₁ : Gives s (data, s₁) ps mid) (h₂ : Gives s₁ (more, s₂) qs after) :
    Gives s (data ++ more, s₂) (ps ++ qs) after where
  stop := h₂.stop
  read rest := by
    have hjoin : (ps ++ qs).filterMap Piece.range? =
        ps.filterMap Piece.range? ++ qs.filterMap Piece.range? := List.filterMap_append
    rw [List.append_assoc, h₁.read, h₂.read, Option.map_map, hjoin]
    congr 1
    funext ranges
    exact (List.append_assoc _ _ _).symm

end Gives

/-- **A piece gives its range, if it has one.** -/
theorem encodePiece_gives {s : Cursor} {before text : List Char} (t : Token) (h : s.At before)
    (htext : '\n' ∉ text) :
    Gives s (encodePiece (classify t) s text) [⟨t, before, text⟩] (before ++ text) := by
  have hline : s.line = (before ++ text).count '\n' := by
    rw [List.count_append, List.count_eq_zero_of_not_mem htext, h.line, Nat.add_zero]
  have hchar : s.char + units16 text = units16 (lastLine (before ++ text)) := by
    rw [lastLine_append htext, units16_append, h.char]
  have hlast := h.last
  -- a piece without a range only moves the cursor on
  have hskip : Piece.range? ⟨t, before, text⟩ = none →
      Gives s ([], { s with char := s.char + units16 text }) [⟨t, before, text⟩] (before ++ text) := by
    intro hnone
    refine Gives.none _ ⟨hline, hchar, ?_⟩ ⟨rfl, rfl⟩ (by rw [List.filterMap_cons_none hnone]; rfl)
    show s.lastLine < s.line ∨ s.lastLine = s.line ∧ s.lastChar ≤ s.char + units16 text
    omega
  cases hclass : classify t with
  | none =>
    refine hskip ?_
    unfold Piece.range?
    rw [hclass, Option.map_none, ite_self]
  | some kind =>
    obtain ⟨kind, modifiers⟩ := kind
    by_cases hshown : dropTrailing '\r' text = []
    · rw [encodePiece, if_pos (units16_eq_zero.mpr hshown)]
      exact hskip (if_pos hshown)
    · have hrange : Piece.range? ⟨t, before, text⟩ =
          some ⟨s.line, s.char, units16 (dropTrailing '\r' text), kind, modifiers⟩ := by
        rw [h.line, h.char]
        exact (if_neg hshown).trans (by rw [hclass]; rfl)
      have hpos : units16 (dropTrailing '\r' text) ≠ 0 := fun hzero => hshown (units16_eq_zero.mp hzero)
      rw [encodePiece, if_neg hpos]
      refine ⟨⟨hline, hchar, Or.inr ⟨rfl, Nat.le_add_right _ _⟩⟩, fun more => ?_⟩
      -- the cursor is not before the last range, so adding up the differences leads back to it
      have hlines : s.lastLine + (s.line - s.lastLine) = s.line := by omega
      have hchars : (if s.line - s.lastLine = 0 then
          s.lastChar + (if s.line - s.lastLine = 0 then s.char - s.lastChar else s.char)
          else if s.line - s.lastLine = 0 then s.char - s.lastChar else s.char) = s.char := by
        split <;> omega
      rw [List.filterMap_cons_some hrange]
      show Option.map _ _ = _
      rw [hlines, hchars]
      rfl

/-- Lines after a line feed give their pieces. -/
theorem encodeLines_gives (t : Token) : ∀ {lines : List (List Char)} {s : Cursor} {before : List Char},
    s.At before → (∀ line ∈ lines, '\n' ∉ line) →
    Gives s (encodeLines (classify t) s lines) (linesFrom t (before ++ ['\n']) lines)
      (before ++ lines.flatMap ('\n' :: ·))
  | [], s, before, h, _ => by
    rw [List.flatMap_nil, List.append_nil]
    exact Gives.none s h ⟨rfl, rfl⟩ rfl
  | line :: lines, s, before, h, hlines => by
    have hjoin : before ++ (line :: lines).flatMap ('\n' :: ·) =
        before ++ ['\n'] ++ line ++ lines.flatMap ('\n' :: ·) := by simp
    have hfirst := encodePiece_gives t h.lineFeed (hlines line List.mem_cons_self)
    have hrest := encodeLines_gives t hfirst.stop fun l hl => hlines l (List.mem_cons_of_mem line hl)
    rw [hjoin]
    have hall := hfirst.append hrest
    exact ⟨hall.stop, hall.read⟩

/-- A token gives its pieces. -/
theorem encodeToken_gives (t : Token) {s : Cursor} {before : List Char} (h : s.At before) :
    Gives s (encodeToken s t) (linesFrom t before (splitAtChar '\n' t.content))
      (before ++ t.content) := by
  cases hcut : splitAtChar '\n' t.content with
  | nil => exact absurd hcut (splitAtChar_ne_nil '\n' t.content)
  | cons line lines =>
    have hnot : ∀ text ∈ line :: lines, '\n' ∉ text := fun text hmem =>
      not_mem_of_mem_splitAtChar (hcut ▸ hmem)
    have hfirst := encodePiece_gives t h (hnot line List.mem_cons_self)
    have hrest := encodeLines_gives t hfirst.stop fun l hl => hnot l (List.mem_cons_of_mem line hl)
    rw [encodeToken, hcut, eq_join_of_splitAtChar hcut, ← List.append_assoc]
    exact hfirst.append hrest

/-- **Decoding gives the ranges of the pieces**, from any cursor that stands at the end of some text. -/
theorem decodeFrom_encodeFrom : ∀ (ts : List Token) {s : Cursor} {before : List Char}, s.At before →
    decodeFrom s.lastLine s.lastChar (encodeFrom s ts) =
      some ((pieces before ts).filterMap Piece.range?)
  | [], _, _, _ => rfl
  | t :: ts, s, before, h => by
    have hgives := encodeToken_gives t h
    rw [encodeFrom]
    show decodeFrom _ _ ((encodeToken s t).1 ++ encodeFrom (encodeToken s t).2 ts) = _
    rw [hgives.read, decodeFrom_encodeFrom ts hgives.stop, pieces, List.filterMap_append]
    rfl

/-- The ranges of the pieces of a text are what an editor reads. -/
theorem decode_encode_eq (ts : List Token) :
    decode (encode ts) = some ((pieces [] ts).filterMap Piece.range?) :=
  decodeFrom_encodeFrom ts Cursor.at_start

/-! ## What the ranges say -/

/-- The kind of a token with some tags: that of the first entry whose tag is among them. -/
def FirstKind (tags : List String) (kind : Nat) : Prop :=
  ∃ earlier tag name later, kinds = earlier ++ (tag, name) :: later ∧ (∀ e ∈ earlier, e.1 ∉ tags) ∧
    tag ∈ tags ∧ kindNames[kind]? = some name

theorem hasTag_iff {t : Token} {tag : String} : t.hasTag tag = true ↔ tag ∈ t.tags :=
  List.contains_iff_mem

theorem classify_eq_some {t : Token} {kind modifiers : Nat} (h : classify t = some (kind, modifiers)) :
    FirstKind t.tags kind ∧ modifiers = if "constant" ∈ t.tags then 1 else 0 := by
  have hnames : ∀ e ∈ kinds, kindNames[kindNames.idxOf e.2]? = some e.2 := by decide
  obtain ⟨e, hfind, hentry⟩ := Option.map_eq_some_iff.mp h
  obtain ⟨rfl, rfl⟩ := Prod.mk.inj hentry
  obtain ⟨htag, earlier, later, hkinds, hearlier⟩ := List.find?_eq_some_iff_append.mp hfind
  have hmem : e ∈ kinds := hkinds ▸ List.mem_append_right earlier List.mem_cons_self
  refine ⟨⟨earlier, e.1, e.2, later, hkinds, ?_, hasTag_iff.mp htag, hnames e hmem⟩, ?_⟩
  · intro e' he' hin
    have hnot := hearlier e' he'
    rw [hasTag_iff.mpr hin] at hnot
    exact absurd hnot (by decide)
  · simp only [hasTag_iff]

/-- The position of the end of a beginning of a text. -/
theorem positionAt_of_prefix {before source : List Char} (h : before <+: source) :
    positionAt source before.length =
      ⟨before.count '\n' + 1, (lastLine before).length + 1, before.length⟩ := by
  have htake : source.take before.length = before := (List.prefix_iff_eq_take.mp h).symm
  rw [positionAt_of_le h.length_le, htake]

/-- A range is that of a piece of a text. -/
structure Range.Describes (source : List Char) (r : Range) (p : Piece) : Prop where
  /-- The line counts the line feeds before the piece. -/
  line : r.line = p.before.count '\n'
  /-- The column counts the units since the last of them. -/
  char : r.char = units16 (lastLine p.before)
  /-- Both are the position of the piece in the text, whose column counts characters from 1. -/
  position : positionAt source p.before.length =
    ⟨r.line + 1, (lastLine p.before).length + 1, p.before.length⟩
  length : r.length = units16 p.shown
  kind : FirstKind p.token.tags r.kind
  /-- Constants are read-only. -/
  modifiers : r.modifiers = if "constant" ∈ p.token.tags then 1 else 0

theorem Piece.describes_of_range? {source : List Char} {p : Piece} {r : Range}
    (hbefore : p.before <+: source) (h : p.range? = some r) : r.Describes source p := by
  obtain ⟨_, hclass, hline, hchar, hlength⟩ := p.range?_eq_some h
  obtain ⟨hkind, hmodifiers⟩ := classify_eq_some hclass
  exact ⟨hline, hchar, hline ▸ positionAt_of_prefix hbefore, hlength, hkind, hmodifiers⟩

theorem Piece.isColored_iff {p : Piece} : p.isColored = true ↔ ∃ r, p.range? = some r := by
  have hany : (kinds.any fun e => p.token.hasTag e.1) = true ↔ ∃ kind, classify p.token = some kind := by
    rw [List.any_eq_true, ← List.find?_isSome, classify, Option.isSome_iff_exists]
    simp only [Option.map_eq_some_iff]
    exact ⟨fun ⟨e, he⟩ => ⟨_, e, he, rfl⟩, fun ⟨_, e, he, _⟩ => ⟨e, he⟩⟩
  unfold Piece.isColored Piece.range?
  rw [Bool.and_eq_true, hany, decide_eq_true_eq]
  constructor
  · rintro ⟨hshown, kind, hkind⟩
    exact ⟨_, (if_neg hshown).trans (by rw [hkind]; rfl)⟩
  · rintro ⟨r, hr⟩
    obtain ⟨hshown, hclass, _⟩ := p.range?_eq_some hr
    exact ⟨hshown, _, hclass⟩

/-- The ranges of pieces are, one by one, those of the pieces that are colored. -/
theorem describes_filterMap {source : List Char} : ∀ {ps : List Piece},
    (∀ p ∈ ps, p.before <+: source) →
    List.Forall₂ (Range.Describes source) (ps.filterMap Piece.range?) (ps.filter Piece.isColored)
  | [], _ => .nil
  | p :: ps, h => by
    have ih := describes_filterMap fun q hq => h q (List.mem_cons_of_mem p hq)
    cases hr : p.range? with
    | none =>
      have hnot : ¬ p.isColored = true := by
        rw [Piece.isColored_iff, hr]
        simp
      rw [List.filterMap_cons_none hr, List.filter_cons_of_neg hnot]
      exact ih
    | some r =>
      rw [List.filterMap_cons_some hr, List.filter_cons_of_pos (Piece.isColored_iff.mpr ⟨r, hr⟩)]
      exact .cons (Piece.describes_of_range? (h p List.mem_cons_self) hr) ih

/-- The ranges of a text come one after the other. -/
theorem pairwise_ranges (ts : List Token) :
    ((pieces [] ts).filterMap Piece.range?).Pairwise Range.Before := by
  refine List.pairwise_filterMap.mpr ((pairwise_pieces ts []).imp_of_mem ?_)
  intro p q hp _ hpq r hr s hs
  exact hpq.range (mem_pieces hp).1 hr hs

theorem length_pos_of_range? {p : Piece} {r : Range} (h : p.range? = some r) : 0 < r.length := by
  obtain ⟨hshown, _, _, _, hlength⟩ := p.range?_eq_some h
  rw [hlength]
  exact Nat.pos_of_ne_zero fun hzero => hshown (units16_eq_zero.mp hzero)

/-- **Decoding undoes encoding.**  Every five numbers are a range, and the ranges are, in order, those
of the pieces that are colored: each stands where its piece stands in the text, so no difference was cut
off at zero.  No range is empty, and each ends before the next one starts. -/
theorem decode_encode (ts : List Token) : ∃ ranges,
    decode (encode ts) = some ranges ∧ (encode ts).length = 5 * ranges.length ∧
    List.Forall₂ (Range.Describes (contents ts)) ranges ((pieces [] ts).filter Piece.isColored) ∧
    (∀ p ∈ pieces [] ts, '\n' ∉ p.text ∧ p.before ++ p.text <+: contents ts) ∧
    (∀ r ∈ ranges, 0 < r.length) ∧ ranges.Pairwise Range.Before := by
  have hdecode := decode_encode_eq ts
  refine ⟨_, hdecode, length_of_decodeFrom hdecode, describes_filterMap ?_, ?_, ?_, pairwise_ranges ts⟩
  · intro p hp
    exact (List.prefix_append _ _).trans (mem_pieces hp).2.2
  · intro p hp
    obtain ⟨hline, _, hend⟩ := mem_pieces hp
    exact ⟨hline, hend⟩
  · intro r hr
    obtain ⟨p, _, hp⟩ := List.mem_filterMap.mp hr
    exact length_pos_of_range? hp

/-- A string over two lines, with a character of two units and a carriage return in the first of them,
after a line that is not colored. -/
theorem decode_encode_twoLines :
    let string : Token := .single ['"', '😀', '\r', '\n', 'a'] "string"
    let ts : List Token := [.single [' ', '\n'] "ind", string]
    let first : Piece := ⟨string, [' ', '\n'], ['"', '😀', '\r']⟩
    decode (encode ts) = some [⟨1, 0, 3, 2, 0⟩, ⟨2, 0, 1, 2, 0⟩] ∧
      first ∈ pieces [] ts ∧ first.before ++ first.text <+: contents ts ∧
      Range.Describes (contents ts) ⟨1, 0, 3, 2, 0⟩ first ∧
      Range.Before ⟨1, 0, 3, 2, 0⟩ ⟨2, 0, 1, 2, 0⟩ := by
  intro string ts first
  have hranges : decode (encode ts) = some [⟨1, 0, 3, 2, 0⟩, ⟨2, 0, 1, 2, 0⟩] := by decide
  have hcolored : (pieces [] ts).filter Piece.isColored =
    [first, ⟨string, [' ', '\n', '"', '😀', '\r', '\n'], ['a']⟩] := rfl
  have hmem : first ∈ pieces [] ts := (List.mem_filter.mp (hcolored ▸ List.mem_cons_self)).1
  obtain ⟨ranges, hdecode, _, hdescribes, hplace, _, hbefore⟩ := decode_encode ts
  obtain rfl := Option.some.inj (hranges.symm.trans hdecode)
  rw [hcolored] at hdescribes
  cases hdescribes with
  | cons hfirst _ =>
    have hnext := (List.pairwise_cons.mp hbefore).1 _ List.mem_cons_self
    exact ⟨hranges, hmem, (hplace first hmem).2, hfirst, hnext⟩

end Highlight.SemanticTokens
