import Highlight.Proofs.Editor.Decoding
import Highlight.Proofs.Runs

/-!
# What an editor colors

An editor colors cells: each range covers one cell of its line for every UTF-16 unit of its text
(`Range.cells`).  Which range covers a cell does not matter (`colorAt`).

If every carriage return stands before a line feed of its token, no line shows one.  Then each character
has cells of its own: those of its units at the end of the text before it, and none if it ends a line
(`charCells`).  The ranges of the pieces have the cells of their characters (`Piece.cells_eq`), so the
cells of tokens depend on nothing but the characters and the kinds of their tokens (`cells_pieces`), and
combining changes neither of them.
-/

namespace Highlight.SemanticTokens

open Text

/-! ## Cells -/

/-- A cell of a line, and how it is colored: its line and column, its kind and modifiers. -/
abbrev Cell := (Nat × Nat) × (Nat × Nat)

/-- The cells from a column of a line on. -/
def cellsAt (line char length : Nat) (kind : Nat × Nat) : List Cell :=
  (List.range length).map fun k => ((line, char + k), kind)

/-- The cells of a range. -/
def Range.cells (r : Range) : List Cell := cellsAt r.line r.char r.length (r.kind, r.modifiers)

/-- A range covers a cell. -/
def Range.Covers (r : Range) (line column : Nat) : Prop :=
  r.line = line ∧ r.char ≤ column ∧ column < r.char + r.length

instance (r : Range) (line column : Nat) : Decidable (r.Covers line column) :=
  inferInstanceAs (Decidable (_ ∧ _ ∧ _))

/-- The kind and the modifiers that some ranges give to a cell, if they color it. -/
def colorAt (ranges : List Range) (line column : Nat) : Option (Nat × Nat) :=
  (ranges.find? fun r => decide (r.Covers line column)).map fun r => (r.kind, r.modifiers)

theorem lookup_cellsAt (line char : Nat) (kind : Nat × Nat) (l c : Nat) : ∀ length : Nat,
    (cellsAt line char length kind).lookup (l, c) =
      if line = l ∧ char ≤ c ∧ c < char + length then some kind else none
  | 0 => (if_neg (by omega)).symm
  | length + 1 => by
    have ih := lookup_cellsAt line char kind l c length
    unfold cellsAt at ih ⊢
    rw [List.range_succ, List.map_append, List.lookup_append, ih]
    by_cases hbefore : line = l ∧ char ≤ c ∧ c < char + length
    · rw [if_pos hbefore, if_pos (by omega)]
      rfl
    · rw [if_neg hbefore]
      by_cases hlast : line = l ∧ char + length = c
      · obtain ⟨rfl, rfl⟩ := hlast
        rw [if_pos (by omega)]
        simp
      · have hne : ((l, c) == (line, char + length)) = false := by
          rw [beq_eq_false_iff_ne]
          intro heq
          obtain ⟨rfl, rfl⟩ := Prod.mk.inj heq
          exact hlast ⟨rfl, rfl⟩
        rw [if_neg (by omega)]
        simp [hne]

/-- **The color of a cell is found among the cells of the ranges**, so ranges with the same cells color
alike. -/
theorem colorAt_eq_lookup (line column : Nat) : ∀ ranges : List Range,
    colorAt ranges line column = (ranges.flatMap Range.cells).lookup (line, column)
  | [] => rfl
  | r :: ranges => by
    have ih := colorAt_eq_lookup line column ranges
    have hlookup : r.cells.lookup (line, column) =
        if r.Covers line column then some (r.kind, r.modifiers) else none :=
      lookup_cellsAt r.line r.char (r.kind, r.modifiers) line column r.length
    unfold colorAt at ih ⊢
    rw [List.flatMap_cons, List.lookup_append, ← ih, hlookup]
    by_cases hcovers : r.Covers line column
    · simp [hcovers]
    · simp [hcovers]

/-- Where ranges come one after the other, the color of a cell is that of any range that covers it. -/
theorem colorAt_of_covers {ranges : List Range} (h : ranges.Pairwise Range.Before) {r : Range}
    (hr : r ∈ ranges) {line column : Nat} (hcovers : r.Covers line column) :
    colorAt ranges line column = some (r.kind, r.modifiers) := by
  unfold colorAt
  cases hfind : ranges.find? fun r => decide (r.Covers line column) with
  | none => exact absurd (decide_eq_true hcovers) (List.find?_eq_none.mp hfind r hr)
  | some first =>
    obtain ⟨hfirst, earlier, later, rfl, hearlier⟩ := List.find?_eq_some_iff_append.mp hfind
    have hfirst := of_decide_eq_true hfirst
    rcases List.mem_append.mp hr with hr | hr
    · exact absurd (hearlier r hr) (by simpa using hcovers)
    rcases List.mem_cons.mp hr with rfl | hr
    · rfl
    · -- a range after the first one that covers the cell would overlap it
      have hbefore := (List.pairwise_cons.mp (List.pairwise_append.mp h).2.1).1 r hr
      unfold Range.Before at hbefore
      unfold Range.Covers at hcovers hfirst
      omega

/-! ## The cells of characters -/

/-- The cells of a character of some kind after a text; a line end has none. -/
def charCells (before : List Char) (c : Char) : Option (Nat × Nat) → List Cell
  | none => []
  | some kind =>
    if c = '\n' ∨ c = '\r' then []
    else cellsAt (before.count '\n') (units16 (lastLine before)) (charUnits16 c) kind

/-- The cells of characters, each with its kind, after a text. -/
def cellsFrom (before : List Char) : List (Char × Option (Nat × Nat)) → List Cell
  | [] => []
  | (c, kind) :: rest => charCells before c kind ++ cellsFrom (before ++ [c]) rest

theorem cellsFrom_append : ∀ (chars more : List (Char × Option (Nat × Nat))) (before : List Char),
    cellsFrom before (chars ++ more) =
      cellsFrom before chars ++ cellsFrom (before ++ chars.map Prod.fst) more
  | [], _, before => by
    rw [List.map_nil, List.append_nil]
    rfl
  | (c, kind) :: chars, more, before => by
    have ih := cellsFrom_append chars more (before ++ [c])
    rw [List.append_assoc] at ih
    simp only [List.cons_append, cellsFrom, ih, List.append_assoc, List.map_cons, List.nil_append]

/-- Characters without a kind have no cells. -/
theorem cellsFrom_none : ∀ (text before : List Char), cellsFrom before (text.map (·, none)) = []
  | [], _ => rfl
  | _ :: text, _ => cellsFrom_none text _

/-- Copies of a character that ends lines have no cells. -/
theorem cellsFrom_replicate {c : Char} (hc : c = '\n' ∨ c = '\r') (kind : Option (Nat × Nat)) :
    ∀ (n : Nat) (before : List Char),
      cellsFrom before ((List.replicate n c).map (·, kind)) = []
  | 0, _ => rfl
  | n + 1, before => by
    have hnone : charCells before c kind = [] := by
      cases kind with
      | none => rfl
      | some kind => exact if_pos hc
    rw [List.replicate_succ, List.map_cons, cellsFrom, hnone, cellsFrom_replicate hc kind n]
    rfl

theorem cellsAt_add (line char length more : Nat) (kind : Nat × Nat) :
    cellsAt line char (length + more) kind =
      cellsAt line char length kind ++ cellsAt line (char + length) more kind := by
  unfold cellsAt
  rw [List.range_add, List.map_append, List.map_map]
  refine congrArg (_ ++ ·) (List.map_congr_left fun k _ => ?_)
  show ((line, char + (length + k)), kind) = ((line, char + length + k), kind)
  rw [Nat.add_assoc]

/-- The cells of a text that no line end is in follow one another. -/
theorem cellsFrom_of_shown (kind : Nat × Nat) : ∀ {text : List Char} (before : List Char),
    '\n' ∉ text → '\r' ∉ text → cellsFrom before (text.map (·, some kind)) =
      cellsAt (before.count '\n') (units16 (lastLine before)) (units16 text) kind
  | [], _, _, _ => rfl
  | c :: text, before, hfeed, hreturn => by
    have hc : ¬ (c = '\n' ∨ c = '\r') := by
      rintro (rfl | rfl)
      · exact hfeed List.mem_cons_self
      · exact hreturn List.mem_cons_self
    have hsingle : '\n' ∉ [c] := by
      intro h
      exact hc (Or.inl (List.mem_singleton.mp h).symm)
    have ih := cellsFrom_of_shown kind (before ++ [c]) (List.not_mem_of_not_mem_cons hfeed)
      (List.not_mem_of_not_mem_cons hreturn)
    rw [List.count_append, List.count_eq_zero_of_not_mem hsingle, Nat.add_zero,
      lastLine_append hsingle, units16_append] at ih
    have hchar : charCells before c (some kind) =
        cellsAt (before.count '\n') (units16 (lastLine before)) (charUnits16 c) kind := if_neg hc
    rw [List.map_cons, cellsFrom, ih, hchar, units16_cons c text, cellsAt_add]
    rfl

/-! ## The cells of pieces -/

/-- The cells of a piece: those of its range, if it has one. -/
def Piece.cells (p : Piece) : List Cell := (p.range?.map Range.cells).getD []

theorem flatMap_cells_filterMap : ∀ ps : List Piece,
    (ps.filterMap Piece.range?).flatMap Range.cells = ps.flatMap Piece.cells
  | [] => rfl
  | p :: ps => by
    have ih := flatMap_cells_filterMap ps
    rw [List.flatMap_cons, Piece.cells]
    cases hr : p.range? with
    | none => simp [hr, ih]
    | some r => simp [hr, ih]

/-- **A piece has the cells of its characters**, if what it shows holds no carriage return. -/
theorem Piece.cells_eq {p : Piece} (hfeed : '\n' ∉ p.text) (hreturn : '\r' ∉ p.shown) :
    p.cells = cellsFrom p.before (p.text.map (·, classify p.token)) := by
  obtain ⟨n, hn⟩ := exists_dropTrailing_append '\r' p.text
  have htext : p.text = p.shown ++ List.replicate n '\r' := hn
  -- the characters that are not shown have no cells
  have hshown : cellsFrom p.before (p.text.map (·, classify p.token)) =
      cellsFrom p.before (p.shown.map (·, classify p.token)) := by
    conv => lhs; rw [htext]
    rw [List.map_append, cellsFrom_append, cellsFrom_replicate (Or.inr rfl), List.append_nil]
  have hfeed' : '\n' ∉ p.shown := by
    intro h
    exact hfeed (htext ▸ List.mem_append_left _ h)
  rw [hshown]
  unfold Piece.cells Piece.range?
  cases hclass : classify p.token with
  | none =>
    rw [cellsFrom_none]
    by_cases hempty : p.shown = []
    · simp [hempty]
    · simp [hempty]
  | some kind =>
    rw [cellsFrom_of_shown kind p.before hfeed' hreturn]
    by_cases hempty : p.shown = []
    · simp [hempty, cellsAt, units16]
    · simp [hempty, Range.cells]

/-- The lines after a line feed have the cells of their characters. -/
theorem cells_linesFrom (t : Token) : ∀ {lines : List (List Char)} (before : List Char),
    (∀ line ∈ lines, '\n' ∉ line ∧ '\r' ∉ dropTrailing '\r' line) →
    (linesFrom t (before ++ ['\n']) lines).flatMap Piece.cells =
      cellsFrom before ((lines.flatMap ('\n' :: ·)).map (·, classify t))
  | [], _, _ => rfl
  | line :: lines, before, h => by
    obtain ⟨hfeed, hreturn⟩ := h line List.mem_cons_self
    have hcells : Piece.cells ⟨t, before ++ ['\n'], line⟩ =
        cellsFrom (before ++ ['\n']) (line.map (·, classify t)) := Piece.cells_eq hfeed hreturn
    have hlineFeed : cellsFrom before (['\n'].map (·, classify t)) = [] :=
      cellsFrom_replicate (Or.inl rfl) (classify t) 1 before
    have ih := cells_linesFrom t (before ++ ['\n'] ++ line) fun l hl =>
      h l (List.mem_cons_of_mem line hl)
    have hjoin : (line :: lines).flatMap ('\n' :: ·) =
        ['\n'] ++ (line ++ lines.flatMap ('\n' :: ·)) := by simp
    rw [hjoin, List.map_append, cellsFrom_append, hlineFeed, List.map_append, cellsFrom_append,
      linesFrom, List.flatMap_cons, hcells, ih]
    simp [Function.comp_def]

theorem cells_linesFrom_splitAtChar {t : Token} (before : List Char) (h : ReturnsPaired t.content) :
    (linesFrom t before (splitAtChar '\n' t.content)).flatMap Piece.cells =
      cellsFrom before (t.content.map (·, classify t)) := by
  have hlines : ∀ line ∈ splitAtChar '\n' t.content,
      '\n' ∉ line ∧ '\r' ∉ dropTrailing '\r' line := fun line hline =>
    ⟨not_mem_of_mem_splitAtChar hline, h.not_mem_dropTrailing hline⟩
  cases hcut : splitAtChar '\n' t.content with
  | nil => exact absurd hcut (splitAtChar_ne_nil '\n' t.content)
  | cons line lines =>
    rw [hcut] at hlines
    obtain ⟨hfeed, hreturn⟩ := hlines line List.mem_cons_self
    have hcells : Piece.cells ⟨t, before, line⟩ = cellsFrom before (line.map (·, classify t)) :=
      Piece.cells_eq hfeed hreturn
    have hrest := cells_linesFrom t (before ++ line) fun l hl => hlines l (List.mem_cons_of_mem line hl)
    conv => rhs; rw [eq_join_of_splitAtChar hcut]
    rw [List.map_append, cellsFrom_append, linesFrom, List.flatMap_cons, hcells, hrest]
    simp [Function.comp_def]

/-- **The ranges of tokens have the cells of their characters**, each with the kind of its token. -/
theorem cells_pieces : ∀ {ts : List Token} (before : List Char), (∀ t ∈ ts, ReturnsPaired t.content) →
    (pieces before ts).flatMap Piece.cells = cellsFrom before (charsWith classify ts)
  | [], _, _ => rfl
  | t :: ts, before, h => by
    have ih := cells_pieces (before ++ t.content) fun u hu => h u (List.mem_cons_of_mem t hu)
    have hchars : charsWith classify (t :: ts) =
        t.content.map (·, classify t) ++ charsWith classify ts := List.flatMap_cons
    rw [pieces, List.flatMap_append, cells_linesFrom_splitAtChar before (h t List.mem_cons_self), ih,
      hchars, cellsFrom_append, List.map_map]
    simp [Function.comp_def]

/-! ## Combining -/

theorem classify_congr {t u : Token} (h : t.sameTags u = true) : classify t = classify u := by
  have htags : ∀ tag, t.hasTag tag = u.hasTag tag := by
    intro tag
    rw [Bool.eq_iff_iff, hasTag_iff, hasTag_iff]
    exact Token.sameTags_iff.mp h tag
  unfold classify
  simp only [htags]

theorem returnsPaired_contents : ∀ {ts : List Token}, (∀ t ∈ ts, ReturnsPaired t.content) →
    ReturnsPaired (contents ts)
  | [], _ => fun i hi => absurd hi (by simp [contents])
  | t :: ts, h => by
    have ih := returnsPaired_contents fun u hu => h u (List.mem_cons_of_mem t hu)
    exact (h t List.mem_cons_self).append ih

/-- Merging keeps a carriage return and its line feed together. -/
theorem returnsPaired_of_merges : ∀ {ts : List Token} {runs : List (List Token)},
    List.Forall₂ Merges ts runs → (∀ u ∈ runs.flatten, ReturnsPaired u.content) →
    ∀ t ∈ ts, ReturnsPaired t.content
  | _, _, .nil, _, _, ht => absurd ht List.not_mem_nil
  | t :: ts, run :: runs, .cons hmerges hs, h, u, hu => by
    rw [List.flatten_cons] at h
    rcases List.mem_cons.mp hu with rfl | hu
    · rw [hmerges.content]
      exact returnsPaired_contents fun v hv => h v (List.mem_append_left _ hv)
    · exact returnsPaired_of_merges hs (fun v hv => h v (List.mem_append_right _ hv)) u hu

theorem cells_combine {ts : List Token} (h : ∀ t ∈ ts, ReturnsPaired t.content) :
    ((pieces [] (combine ts)).filterMap Piece.range?).flatMap Range.cells =
      ((pieces [] ts).filterMap Piece.range?).flatMap Range.cells := by
  have hcombined : ∀ t ∈ combine ts, ReturnsPaired t.content := by
    refine returnsPaired_of_merges (combine_merges ts) ?_
    rw [List.flatten_splitBy]
    exact h
  rw [flatMap_cells_filterMap, flatMap_cells_filterMap, cells_pieces [] h, cells_pieces [] hcombined,
    charsWith_combine (fun _ _ => classify_congr)]

/-- **Combining never changes what an editor colors**, for all tokens in which every carriage return
stands before a line feed of the same token: the ranges read back from the numbers of the combined tokens
give each cell the same kind and modifiers.  No two of these ranges overlap, so each of them gives its
own to all the cells it covers. -/
theorem colorAt_encode_combine {ts : List Token} (h : ∀ t ∈ ts, ReturnsPaired t.content) :
    ∃ ranges merged, decode (encode ts) = some ranges ∧ decode (encode (combine ts)) = some merged ∧
      (∀ line column, colorAt merged line column = colorAt ranges line column) ∧
      ∀ rs ∈ [ranges, merged], ∀ r ∈ rs, ∀ line column, r.Covers line column →
        colorAt rs line column = some (r.kind, r.modifiers) := by
  refine ⟨_, _, decode_encode_eq ts, decode_encode_eq (combine ts), fun line column => ?_,
    fun rs hrs r hr line column hcovers => ?_⟩
  · rw [colorAt_eq_lookup, colorAt_eq_lookup, cells_combine h]
  · have hpairwise : rs.Pairwise Range.Before := by
      rcases List.mem_cons.mp hrs with rfl | hrs
      · exact pairwise_ranges ts
      · obtain rfl := List.mem_singleton.mp hrs
        exact pairwise_ranges (combine ts)
    exact colorAt_of_covers hpairwise hr hcovers

/-- Two strings that are combined, the second of them with a line end: two ranges become one, which gives
the same to the last cell before the carriage return. -/
theorem colorAt_encode_combine_lineEnd :
    let ts : List Token := [.single ['"', '😀'] "string", .single ['b', '\r', '\n'] "string"]
    (∀ t ∈ ts, ReturnsPaired t.content) ∧
      decode (encode ts) = some [⟨0, 0, 3, 2, 0⟩, ⟨0, 3, 1, 2, 0⟩] ∧
      decode (encode (combine ts)) = some [⟨0, 0, 4, 2, 0⟩] ∧
      colorAt [⟨0, 0, 4, 2, 0⟩] 0 3 = colorAt [⟨0, 0, 3, 2, 0⟩, ⟨0, 3, 1, 2, 0⟩] 0 3 ∧
      colorAt [⟨0, 0, 4, 2, 0⟩] 0 3 = some (2, 0) := by
  intro ts
  have hpaired : ∀ t ∈ ts, ReturnsPaired t.content := by decide
  have hranges : decode (encode ts) = some [⟨0, 0, 3, 2, 0⟩, ⟨0, 3, 1, 2, 0⟩] := by decide
  have hmerged : decode (encode (combine ts)) = some [⟨0, 0, 4, 2, 0⟩] := by decide
  obtain ⟨ranges, merged, hdecode, hdecode', hcolor, hcovers⟩ := colorAt_encode_combine hpaired
  obtain rfl := Option.some.inj (hranges.symm.trans hdecode)
  obtain rfl := Option.some.inj (hmerged.symm.trans hdecode')
  exact ⟨hpaired, hranges, hmerged, hcolor 0 3,
    hcovers _ (by simp) ⟨0, 0, 4, 2, 0⟩ (by simp) 0 3 (by decide)⟩

/-- A carriage return that no line feed follows in its token is shown only when more of the line is
merged with it. -/
example : let ts : List Token := [.single ['\r'] "string", .single ['b'] "string"]
    decode (encode ts) = some [⟨0, 1, 1, 2, 0⟩] ∧
      decode (encode (combine ts)) = some [⟨0, 0, 2, 2, 0⟩] := by decide

end Highlight.SemanticTokens
