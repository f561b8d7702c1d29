import Highlight.Proofs.Text.Boundaries
import Mathlib.Algebra.Order.SuccPred
import Mathlib.Data.List.Basic
import Mathlib.Data.Nat.SuccPred
import Mathlib.Data.Prod.Lex

/-!
# The positions of a text in order

Line and column together are as good as an offset.  One character further, the column grows, or the line
does and the column starts again (`positionAt_succ`); either way the place, compared by the lines first,
gets larger, so places are in the order of their offsets (`strictMonoOn_placeAt`).

The way back has two forms.  The offset is the start of its line and the columns from there
(`exists_lineStart`), where the lines start behind the line feeds (`lineStarts`).  And every column of
every line is the place of an offset (`exists_offset`), so the offsets of a text and the columns of its
lines (`places`) are the same order.
-/

namespace Highlight.Text

variable {source : List Char} {offset : Nat}

/-- The line and the column of an offset, compared by the lines first. -/
def placeAt (source : List Char) (offset : Nat) : Nat ×ₗ Nat :=
  toLex ((positionAt source offset).line, (positionAt source offset).column)

/-- Where the lines of a text start: at 0 and behind every line feed. -/
def lineStarts (source : List Char) : List Nat := 0 :: (source.idxsOf '\n').map (· + 1)

/-- The columns of the lines of a text, from 1 to the one behind the last character of the line. -/
def places (source : List Char) : Set (Nat ×ₗ Nat) :=
  {place | ∃ i line j, (splitAtChar '\n' source)[i]? = some line ∧ j ≤ line.length ∧
    place = toLex (i + 1, j + 1)}

/-! ## One character further -/

/-- **A line feed leads to the start of the next line**, any other character to the next column. -/
theorem positionAt_succ {c : Char} (h : source[offset]? = some c) :
    positionAt source ↑(offset + 1) =
      if c = '\n' then ⟨(positionAt source offset).line + 1, 1, offset + 1⟩
      else ⟨(positionAt source offset).line, (positionAt source offset).column + 1, offset + 1⟩ := by
  obtain ⟨hlt, _⟩ := List.getElem?_eq_some_iff.mp h
  have htake : source.take (offset + 1) = source.take offset ++ [c] := by
    rw [List.take_add_one, h, Option.toList_some]
  rw [positionAt_of_le hlt, positionAt_of_le (Nat.le_of_lt hlt), htake, List.count_append]
  split
  · next hc =>
    subst hc
    simp [lastLine_append_lineFeed]
  · next hc =>
    have hnot : '\n' ∉ [c] := by simpa using Ne.symm hc
    simp [lastLine_append hnot, List.count_eq_zero_of_not_mem hnot]

/-- Either way the place gets larger. -/
theorem placeAt_lt_succ (h : offset < source.length) :
    placeAt source offset < placeAt source (offset + 1) := by
  rw [placeAt, placeAt, positionAt_succ (List.getElem?_eq_getElem h), Prod.Lex.toLex_lt_toLex]
  split
  · exact Or.inl (Nat.lt_succ_self _)
  · exact Or.inr ⟨rfl, Nat.lt_succ_self _⟩

/-- **Places are in the order of their offsets.** -/
theorem strictMonoOn_placeAt (source : List Char) :
    StrictMonoOn (placeAt source) (Set.Iic source.length) :=
  strictMonoOn_of_lt_add_one Set.ordConnected_Iic fun _ _ _ h => placeAt_lt_succ h

/-! ## From the position to the offset -/

/-- The line behind a line feed starts there. -/
theorem getElem?_lineStarts (h : source[offset]? = some '\n') :
    (lineStarts source)[(source.take offset).count '\n' + 1]? = some (offset + 1) := by
  obtain ⟨hlt, hchar⟩ := List.getElem?_eq_some_iff.mp h
  have hfeed : source[offset] == '\n' := beq_iff_eq.mpr hchar
  have hcount : source.countBefore '\n' offset < (source.idxsOf '\n').length := by
    rw [List.length_idxsOf]
    exact List.countBefore_lt_count_of_lt_length_of_beq hfeed
  rw [lineStarts, List.getElem?_cons_succ, List.getElem?_map, ← List.countBefore_eq_count_take,
    List.getElem?_eq_getElem hcount, List.getElem_idxOf_eq_idxOfNth,
    List.idxOfNth_countBefore_of_lt_length_of_beq hfeed, Option.map_some]

/-- **An offset is the start of its line and the columns from there**, and no line feed lies between. -/
theorem exists_lineStart (h : offset ≤ source.length) : ∃ i j start,
    positionAt source offset = ⟨i + 1, j + 1, offset⟩ ∧ (lineStarts source)[i]? = some start ∧
      offset = start + j ∧ ∀ k, start ≤ k → k < offset → source[k]? ≠ some '\n' := by
  -- the start of the line stays until a line feed is passed
  induction offset with
  | zero =>
    refine ⟨0, 0, 0, positionAt_of_le h, rfl, rfl, ?_⟩
    intro k _ hlt
    exact absurd hlt (Nat.not_lt_zero k)
  | succ offset ih =>
    obtain ⟨i, j, start, hposition, hstart, hoffset, hfree⟩ := ih (Nat.le_of_lt h)
    have hnext := positionAt_succ (List.getElem?_eq_getElem h)
    rw [hposition] at hnext
    by_cases hfeed : source[offset] = '\n'
    · -- the next line starts behind this character
      have hline : i = (source.take offset).count '\n' := by
        rw [positionAt_of_le (Nat.le_of_lt h)] at hposition
        exact (Nat.succ.inj (congrArg Position.line hposition)).symm
      rw [if_pos hfeed] at hnext
      refine ⟨i + 1, 0, offset + 1, hnext, ?_, rfl, ?_⟩
      · rw [hline]
        exact getElem?_lineStarts (hfeed ▸ List.getElem?_eq_getElem h)
      · intro k hle hlt
        exact absurd hlt (Nat.not_lt.mpr hle)
    · rw [if_neg hfeed] at hnext
      refine ⟨i, j + 1, start, hnext, hstart, by omega, ?_⟩
      intro k hle hlt
      rcases Nat.lt_succ_iff_lt_or_eq.mp hlt with hbefore | rfl
      · exact hfree k hle hbefore
      · simpa [List.getElem?_eq_getElem h] using hfeed

/-! ## From the lines to the offset -/

/-- On the first line the column counts the characters. -/
theorem positionAt_of_notMem {line : List Char} {j : Nat} (hline : '\n' ∉ line) (hj : j ≤ line.length)
    (rest : List Char) : positionAt (line ++ rest) j = ⟨1, j + 1, j⟩ := by
  have hle : j ≤ (line ++ rest).length := by
    rw [List.length_append]
    omega
  have hfree : '\n' ∉ line.take j := fun hmem => hline (List.mem_of_mem_take hmem)
  have hself : lastLine (line.take j) = line.take j := lastLine_append hfree []
  rw [positionAt_of_le hle, List.take_append_of_le_length hj, hself]
  simp [List.count_eq_zero_of_not_mem hfree, Nat.min_eq_left hj]

/-- A line in front moves the others down. -/
theorem positionAt_append_lineFeed {line rest : List Char} (hline : '\n' ∉ line)
    (h : offset ≤ rest.length) :
    positionAt (line ++ '\n' :: rest) ↑(line.length + 1 + offset) =
      ⟨(positionAt rest offset).line + 1, (positionAt rest offset).column, line.length + 1 + offset⟩ := by
  have hmoved := positionAt_append h (line ++ ['\n'])
  have hcount : (line ++ ['\n']).count '\n' = 1 := by
    rw [List.count_append, List.count_eq_zero_of_not_mem hline, List.count_singleton_self]
  have hlength : (line ++ ['\n']).length = line.length + 1 := List.length_append
  rwa [List.append_assoc, List.singleton_append, hcount, hlength, lastLine_append_lineFeed,
    List.length_nil, ite_self, Nat.add_zero] at hmoved

/-- **Every column of every line is the position of an offset.** -/
theorem exists_offset {line : List Char} {i j : Nat} (h : (splitAtChar '\n' source)[i]? = some line)
    (hj : j ≤ line.length) :
    ∃ offset ≤ source.length, positionAt source offset = ⟨i + 1, j + 1, offset⟩ := by
  induction i generalizing source with
  | zero =>
    cases hcut : splitAtChar '\n' source with
    | nil => exact absurd hcut (splitAtChar_ne_nil '\n' source)
    | cons first others =>
      rw [hcut] at h
      obtain rfl : first = line := Option.some.inj h
      have hline : '\n' ∉ first := not_mem_of_mem_splitAtChar (hcut ▸ List.mem_cons_self)
      rw [eq_join_of_splitAtChar hcut]
      refine ⟨j, ?_, positionAt_of_notMem hline hj _⟩
      rw [List.length_append]
      omega
  | succ i ih =>
    rcases one_line_or_exists_first source with hone | ⟨first, rest, rfl, hfirst⟩
    · rw [splitAtChar_of_notMem hone] at h
      exact absurd h (by simp)
    · rw [splitAtChar_lineFeed hfirst] at h
      obtain ⟨offset, hle, hposition⟩ := ih h
      refine ⟨first.length + 1 + offset, ?_, ?_⟩
      · simp only [List.length_append, List.length_cons]
        omega
      · rw [positionAt_append_lineFeed hfirst hle, hposition]

/-- The place of an offset is a column of its line. -/
theorem placeAt_mem_places (h : offset ≤ source.length) : placeAt source offset ∈ places source := by
  obtain ⟨rest, hline⟩ := exists_line_take source offset
  refine ⟨_, _, (lastLine (source.take offset)).length, hline, ?_, ?_⟩
  · rw [List.length_append]
    exact Nat.le_add_right _ _
  · rw [placeAt, positionAt_of_le h]

/-- **The places of a text are those of its offsets**, each of one offset. -/
theorem bijOn_placeAt (source : List Char) :
    Set.BijOn (placeAt source) (Set.Iic source.length) (places source) := by
  refine ⟨fun _ => placeAt_mem_places, (strictMonoOn_placeAt source).injOn, ?_⟩
  rintro _ ⟨i, line, j, hline, hj, rfl⟩
  obtain ⟨offset, hle, hposition⟩ := exists_offset hline hj
  exact ⟨offset, hle, by rw [placeAt, hposition]⟩

/-! ## Offsets outside the text -/

/-- Only the nearest offset of the text matters. -/
theorem positionAt_congr {a b : Int} (h : clampOffset source a = clampOffset source b) :
    positionAt source a = positionAt source b := by
  rw [positionAt, positionAt, h]

theorem positionAt_of_neg {a : Int} (h : a < 0) : positionAt source a = positionAt source 0 := by
  apply positionAt_congr
  unfold clampOffset
  omega

theorem positionAt_of_length_lt {a : Int} (h : source.length < a) :
    positionAt source a = positionAt source source.length := by
  apply positionAt_congr
  unfold clampOffset
  omega

/-! ## The order of offsets and places -/

/-- **Offsets and places of a text are the same order.**  Places get larger with the offset, and all
columns of all lines occur.  The offset is the start of its line and the columns from there, without a
line feed between.  Every offset outside the text has the position of the nearer end. -/
theorem positionAt_ordered (source : List Char) :
    StrictMonoOn (placeAt source) (Set.Iic source.length) ∧
    Set.BijOn (placeAt source) (Set.Iic source.length) (places source) ∧
    (∀ offset ≤ source.length, ∃ i j start,
      positionAt source offset = ⟨i + 1, j + 1, offset⟩ ∧ (lineStarts source)[i]? = some start ∧
      offset = start + j ∧ ∀ k, start ≤ k → k < offset → source[k]? ≠ some '\n') ∧
    (∀ offset : Int, offset < 0 → positionAt source offset = positionAt source 0) ∧
    (∀ offset : Int, source.length < offset →
      positionAt source offset = positionAt source source.length) := by
  refine ⟨strictMonoOn_placeAt source, bijOn_placeAt source, ?_, ?_, ?_⟩
  · intro offset h
    exact exists_lineStart h
  · intro offset h
    exact positionAt_of_neg h
  · intro offset h
    exact positionAt_of_length_lt h

/-- The empty line between two line feeds has one place; the end of the text is one column behind the
start of the last line, and so is everything after it. -/
theorem positionAt_ordered_emptyLine :
    let source := ['a', '\n', '\n', 'b']
    placeAt source 1 < placeAt source 2 ∧ toLex (2, 1) ∈ places source ∧
    (∃ start, (lineStarts source)[2]? = some start ∧ 4 = start + 1 ∧
      ∀ k, start ≤ k → k < 4 → source[k]? ≠ some '\n') ∧
    positionAt source (-1) = ⟨1, 1, 0⟩ ∧ positionAt source 9 = ⟨3, 2, 4⟩ := by
  intro source
  obtain ⟨hmono, hbij, hstart, hbelow, habove⟩ := positionAt_ordered source
  have hfirst : 1 ≤ source.length := by decide
  have hsecond : 2 ≤ source.length := by decide
  refine ⟨hmono hfirst hsecond (by decide), hbij.mapsTo hsecond, ?_, hbelow (-1) (by decide),
    habove 9 (by decide)⟩
  obtain ⟨i, j, start, hposition, hline, hoffset, hfree⟩ := hstart 4 (Nat.le_refl 4)
  have hend : positionAt source 4 = ⟨3, 2, 4⟩ := rfl
  obtain ⟨rfl, rfl⟩ : i = 2 ∧ j = 1 := by simpa using hend.symm.trans hposition
  exact ⟨start, hline, hoffset, hfree⟩

end Highlight.Text
