import Highlight.Text.Lines
import Highlight.Text.Position
import Highlight.Text.Units16

/-!
# Lines, their lengths, and positions

A text cut at a character is its pieces with the character between them (`eq_join_of_splitAtChar`),
and no piece holds the character.  Text without a line feed goes on with the last line
(`lastLine_append`), so the line of a place is known from the text before it (`exists_line`).  Text in
front of another moves the positions in it (`positionAt_append`).

Dropping a character at the end leaves a beginning of the text, so lengths in UTF-16 units can only get
smaller.  Where carriage returns stand before line feeds (`ReturnsPaired`), a line has none but at its
end, and none is left when they are dropped there.
-/

namespace Highlight.Text

/-! ## Cutting at a character -/

theorem splitAtChar_ne_nil (c : Char) : ∀ cs : List Char, splitAtChar c cs ≠ []
  | [] => List.cons_ne_nil _ _
  | d :: rest => by
    rw [splitAtChar]
    split
    · exact List.cons_ne_nil _ _
    · split <;> exact List.cons_ne_nil _ _

/-- The cut at a character that is not the one asked for lies further on. -/
theorem splitAtChar_cons_of_ne {c d : Char} (h : d ≠ c) (rest : List Char) :
    ∃ piece pieces, splitAtChar c rest = piece :: pieces ∧
      splitAtChar c (d :: rest) = (d :: piece) :: pieces := by
  rw [splitAtChar, if_neg h]
  cases hrest : splitAtChar c rest with
  | nil => exact absurd hrest (splitAtChar_ne_nil c rest)
  | cons piece pieces => exact ⟨piece, pieces, rfl, rfl⟩

/-- **A text is its pieces with the character before each but the first.** -/
theorem eq_join_of_splitAtChar {c : Char} : ∀ {cs piece : List Char} {pieces : List (List Char)},
    splitAtChar c cs = piece :: pieces → cs = piece ++ pieces.flatMap (c :: ·)
  | [], _, _, h => by
    obtain ⟨rfl, rfl⟩ := List.cons.inj h
    rfl
  | d :: rest, _, _, h => by
    by_cases hd : d = c
    · rw [splitAtChar, if_pos hd] at h
      obtain ⟨rfl, rfl⟩ := List.cons.inj h
      cases hrest : splitAtChar c rest with
      | nil => exact absurd hrest (splitAtChar_ne_nil c rest)
      | cons piece pieces =>
        rw [List.flatMap_cons, List.nil_append, List.cons_append, ← eq_join_of_splitAtChar hrest, hd]
    · obtain ⟨piece, pieces, hrest, hcut⟩ := splitAtChar_cons_of_ne hd rest
      obtain ⟨rfl, rfl⟩ := List.cons.inj (hcut.symm.trans h)
      rw [List.cons_append, ← eq_join_of_splitAtChar hrest]

/-- No piece holds the character at which the text is cut. -/
theorem not_mem_of_mem_splitAtChar {c : Char} : ∀ {cs piece : List Char},
    piece ∈ splitAtChar c cs → c ∉ piece
  | [], piece, h => by
    obtain rfl := List.mem_singleton.mp h
    exact List.not_mem_nil
  | d :: rest, piece, h => by
    by_cases hd : d = c
    · rw [splitAtChar, if_pos hd] at h
      rcases List.mem_cons.mp h with rfl | h
      · exact List.not_mem_nil
      · exact not_mem_of_mem_splitAtChar h
    · obtain ⟨first, pieces, hrest, hcut⟩ := splitAtChar_cons_of_ne hd rest
      rw [hcut] at h
      rcases List.mem_cons.mp h with rfl | h
      · have hfirst : c ∉ first := not_mem_of_mem_splitAtChar (hrest ▸ List.mem_cons_self)
        exact List.not_mem_cons_of_ne_of_not_mem (Ne.symm hd) hfirst
      · exact not_mem_of_mem_splitAtChar (hrest ▸ List.mem_cons_of_mem first h)

/-- The pieces of a text are parts of it. -/
theorem isInfix_of_mem_splitAtChar {c : Char} : ∀ {cs piece : List Char},
    piece ∈ splitAtChar c cs → piece <:+: cs
  | [], piece, h => by
    obtain rfl := List.mem_singleton.mp h
    exact List.infix_refl []
  | d :: rest, piece, h => by
    by_cases hd : d = c
    · rw [splitAtChar, if_pos hd] at h
      rcases List.mem_cons.mp h with rfl | h
      · exact List.nil_infix
      · exact (isInfix_of_mem_splitAtChar h).trans (List.suffix_cons d rest).isInfix
    · obtain ⟨first, pieces, hrest, hcut⟩ := splitAtChar_cons_of_ne hd rest
      rw [hcut] at h
      rcases List.mem_cons.mp h with rfl | h
      · have hprefix : d :: first <+: d :: rest := by
          rw [eq_join_of_splitAtChar hrest]
          exact List.prefix_append (d :: first) _
        exact hprefix.isInfix
      · have hmem : piece ∈ splitAtChar c rest := hrest ▸ List.mem_cons_of_mem first h
        exact (isInfix_of_mem_splitAtChar hmem).trans (List.suffix_cons d rest).isInfix

/-- Cutting goes on after an occurrence of the character as at the start. -/
theorem splitAtChar_append_cons (c : Char) : ∀ cs ds : List Char,
    splitAtChar c (cs ++ c :: ds) = splitAtChar c cs ++ splitAtChar c ds
  | [], ds => by
    show splitAtChar c (c :: ds) = [] :: splitAtChar c ds
    rw [splitAtChar, if_pos rfl]
  | d :: cs, ds => by
    have ih := splitAtChar_append_cons c cs ds
    rw [List.cons_append, splitAtChar, splitAtChar, ih]
    split
    · rfl
    · cases hcs : splitAtChar c cs with
      | nil => exact absurd hcs (splitAtChar_ne_nil c cs)
      | cons piece pieces => rfl

theorem length_splitAtChar (c : Char) : ∀ cs : List Char,
    (splitAtChar c cs).length = cs.count c + 1
  | [] => rfl
  | d :: cs => by
    have ih := length_splitAtChar c cs
    by_cases hd : d = c
    · rw [splitAtChar, if_pos hd, List.length_cons, ih, hd, List.count_cons_self]
    · obtain ⟨piece, pieces, hcs, hcut⟩ := splitAtChar_cons_of_ne hd cs
      rw [hcut, List.count_cons_of_ne hd, ← ih, hcs]
      rfl

/-- The first piece starts with all that is before the first occurrence. -/
theorem exists_splitAtChar_append {c : Char} : ∀ {cs : List Char}, c ∉ cs → ∀ ds : List Char,
    ∃ more pieces, splitAtChar c (cs ++ ds) = (cs ++ more) :: pieces
  | [], _, ds => List.exists_cons_of_ne_nil (splitAtChar_ne_nil c ds)
  | d :: cs, h, ds => by
    obtain ⟨hd, hcs⟩ := List.ne_and_not_mem_of_not_mem_cons h
    obtain ⟨more, pieces, ih⟩ := exists_splitAtChar_append hcs ds
    obtain ⟨piece, pieces', hrest, hcut⟩ := splitAtChar_cons_of_ne (Ne.symm hd) (cs ++ ds)
    obtain ⟨rfl, -⟩ := List.cons.inj (hrest.symm.trans ih)
    exact ⟨more, pieces', hcut⟩

/-! ## The last line -/

/-- Text without a line feed goes on with the last line. -/
theorem lastLine_append {more : List Char} (h : '\n' ∉ more) (cs : List Char) :
    lastLine (cs ++ more) = lastLine cs ++ more := by
  have hall : ∀ c ∈ more.reverse, decide (c ≠ '\n') = true := by
    intro c hc
    rw [decide_eq_true_eq]
    rintro rfl
    exact h (List.mem_reverse.mp hc)
  rw [lastLine, List.reverse_append, List.takeWhile_append_of_pos hall, List.reverse_append,
    List.reverse_reverse, lastLine]

/-- After a line feed the text before it does not matter. -/
theorem lastLine_append_of_mem {more : List Char} (h : '\n' ∈ more) (cs : List Char) :
    lastLine (cs ++ more) = lastLine more := by
  have hshort : ¬ (more.reverse.takeWhile (· ≠ '\n')).length = more.reverse.length := by
    intro hlength
    have hall := List.all_takeWhile (p := (· ≠ '\n')) (l := more.reverse)
    rw [(List.takeWhile_prefix _).eq_of_length hlength, List.all_eq_true] at hall
    exact absurd (hall '\n' (List.mem_reverse.mpr h)) (by simp)
  rw [lastLine, List.reverse_append, List.takeWhile_append, if_neg hshort, lastLine]

/-- A line feed starts an empty line. -/
theorem lastLine_append_lineFeed (cs : List Char) : lastLine (cs ++ ['\n']) = [] := by
  simp [lastLine]

/-- The last line holds no line feed, and before it there is nothing or a line feed. -/
theorem exists_lastLine (cs : List Char) : '\n' ∉ lastLine cs ∧
    (cs = lastLine cs ∨ ∃ before, cs = before ++ '\n' :: lastLine cs) := by
  by_cases h : '\n' ∈ cs
  · obtain ⟨back, front, hback, hnot⟩ := List.eq_append_cons_of_mem (List.mem_reverse.mpr h)
    have hcs : cs = front.reverse ++ ['\n'] ++ back.reverse := by
      rw [← List.reverse_reverse cs, hback, List.reverse_append, List.reverse_cons]
    have hline : '\n' ∉ back.reverse := fun hmem => hnot (List.mem_reverse.mp hmem)
    have hlast : lastLine cs = back.reverse := by
      rw [hcs, lastLine_append hline, lastLine_append_lineFeed, List.nil_append]
    rw [hlast]
    exact ⟨hline, Or.inr ⟨front.reverse, hcs.trans (List.append_assoc _ _ _)⟩⟩
  · have hself : lastLine cs = cs := lastLine_append h []
    exact ⟨hself.symm ▸ h, Or.inl hself.symm⟩

/-- **The line of a place in a text** is the last line before it and what comes after up to a line
feed. -/
theorem exists_line {text : List Char} (h : '\n' ∉ text) (before more : List Char) :
    ∃ rest, (splitAtChar '\n' (before ++ text ++ more))[before.count '\n']? =
      some (lastLine before ++ text ++ rest) := by
  obtain ⟨hline, hbefore⟩ := exists_lastLine before
  have htext : '\n' ∉ lastLine before ++ text := by
    rw [List.mem_append, not_or]
    exact ⟨hline, h⟩
  obtain ⟨rest, pieces, hcut⟩ := exists_splitAtChar_append htext more
  refine ⟨rest, ?_⟩
  rcases hbefore with hself | ⟨earlier, hearlier⟩
  · rw [← hself] at hline hcut ⊢
    rw [List.count_eq_zero_of_not_mem hline, hcut]
    rfl
  · have hlength : before.count '\n' = (splitAtChar '\n' earlier).length := by
      conv => lhs; rw [hearlier]
      rw [List.count_append, List.count_cons_self, List.count_eq_zero_of_not_mem hline,
        length_splitAtChar]
    have hjoin : before ++ text ++ more = earlier ++ '\n' :: (lastLine before ++ text ++ more) := by
      conv => lhs; rw [hearlier]
      simp
    rw [hjoin, splitAtChar_append_cons, hcut, hlength, List.getElem?_append_right (Nat.le_refl _),
      Nat.sub_self]
    rfl

/-- The line of an offset, from its start to the offset and on. -/
theorem exists_line_take (text : List Char) (offset : Nat) :
    ∃ rest, (splitAtChar '\n' text)[(text.take offset).count '\n']? =
      some (lastLine (text.take offset) ++ rest) := by
  obtain ⟨rest, hline⟩ := exists_line (List.not_mem_nil (a := '\n')) (text.take offset) (text.drop offset)
  rw [List.append_nil, List.append_nil, List.take_append_drop] at hline
  exact ⟨rest, hline⟩

/-! ## Positions -/

/-- The position of an offset inside a text. -/
theorem positionAt_of_le {text : List Char} {offset : Nat} (h : offset ≤ text.length) :
    positionAt text offset =
      ⟨(text.take offset).count '\n' + 1, (lastLine (text.take offset)).length + 1, offset⟩ := by
  have hclamp : clampOffset text offset = offset := Nat.min_eq_left h
  rw [positionAt, hclamp, List.length_take, Nat.min_eq_left h]

/-- **Text in front adds its line feeds to the line**, and its last line to the column of what lies on
the first line. -/
theorem positionAt_append {text : List Char} {offset : Nat} (h : offset ≤ text.length)
    (before : List Char) : positionAt (before ++ text) ↑(before.length + offset) =
      ⟨(positionAt text offset).line + before.count '\n',
        (positionAt text offset).column +
          if '\n' ∈ text.take offset then 0 else (lastLine before).length,
        before.length + offset⟩ := by
  have hle : before.length + offset ≤ (before ++ text).length := by
    rw [List.length_append]
    omega
  rw [positionAt_of_le hle, positionAt_of_le h, List.take_length_add_append, List.count_append,
    Position.mk.injEq]
  refine ⟨(Nat.add_assoc _ _ _).trans (Nat.add_comm _ _), ?_, rfl⟩
  split
  · next hfeed => rw [lastLine_append_of_mem hfeed, Nat.add_zero]
  · next hfeed =>
    have hself : lastLine (text.take offset) = text.take offset := lastLine_append hfeed []
    rw [lastLine_append hfeed, List.length_append, hself]
    exact (Nat.add_assoc _ _ _).trans (Nat.add_comm _ _)

/-! ## Characters dropped at the end -/

/-- What is left is a beginning of the text. -/
theorem isPrefix_dropTrailing (c : Char) (cs : List Char) : dropTrailing c cs <+: cs := by
  have hsuffix : cs.reverse.dropWhile (· == c) <:+ cs.reverse := List.dropWhile_suffix _
  rw [← List.reverse_prefix, List.reverse_reverse] at hsuffix
  exact hsuffix

/-- The character at the end is dropped. -/
theorem dropTrailing_concat (c : Char) (cs : List Char) :
    dropTrailing c (cs ++ [c]) = dropTrailing c cs := by
  simp [dropTrailing]

/-- The end is dropped on, if nothing of the second text is left. -/
theorem dropTrailing_append (c : Char) (cs ds : List Char) : dropTrailing c (cs ++ ds) =
    if dropTrailing c ds = [] then dropTrailing c cs else cs ++ dropTrailing c ds := by
  unfold dropTrailing
  rw [List.reverse_append, List.dropWhile_append]
  cases List.dropWhile (· == c) ds.reverse <;> simp

/-- What is left of a text comes before what is left of the text and more. -/
theorem isPrefix_dropTrailing_append {c : Char} {ds : List Char} (h : dropTrailing c ds ≠ [])
    (cs more : List Char) : cs ++ dropTrailing c ds <+: dropTrailing c (cs ++ ds ++ more) := by
  rw [dropTrailing_append c (cs ++ ds) more]
  split
  · have hkept : dropTrailing c (cs ++ ds) = cs ++ dropTrailing c ds := by
      rw [dropTrailing_append, if_neg h]
    exact hkept ▸ List.prefix_rfl
  · obtain ⟨dropped, hdropped⟩ := isPrefix_dropTrailing c ds
    refine ⟨dropped ++ dropTrailing c more, ?_⟩
    rw [List.append_assoc, ← List.append_assoc _ dropped, hdropped, List.append_assoc]

/-- What is dropped are copies of the character. -/
theorem exists_dropTrailing_append (c : Char) (cs : List Char) :
    ∃ n, cs = dropTrailing c cs ++ List.replicate n c := by
  refine ⟨(cs.reverse.takeWhile (· == c)).length, ?_⟩
  have hcopies : cs.reverse.takeWhile (· == c) =
      List.replicate (cs.reverse.takeWhile (· == c)).length c := by
    refine List.eq_replicate_iff.mpr ⟨rfl, fun d hd => ?_⟩
    have hall := List.all_takeWhile (p := (· == c)) (l := cs.reverse)
    exact beq_iff_eq.mp (List.all_eq_true.mp hall d hd)
  have hsplit := congrArg List.reverse (List.takeWhile_append_dropWhile (p := (· == c)) (l := cs.reverse))
  rw [List.reverse_append, List.reverse_reverse, hcopies, List.reverse_replicate] at hsplit
  exact hsplit.symm

/-- Nothing is dropped of a text without the character. -/
theorem dropTrailing_of_notMem {c : Char} {cs : List Char} (h : c ∉ cs) : dropTrailing c cs = cs := by
  obtain ⟨n, hcs⟩ := exists_dropTrailing_append c cs
  cases n with
  | zero => simpa using hcs.symm
  | succ n =>
    refine absurd ?_ h
    rw [hcs]
    simp

/-! ## Carriage returns before line feeds -/

/-- Every carriage return of a text stands before a line feed of it. -/
def ReturnsPaired (cs : List Char) : Prop := ∀ i, cs[i]? = some '\r' → cs[i + 1]? = some '\n'

instance (cs : List Char) : Decidable (ReturnsPaired cs) :=
  decidable_of_iff (∀ i < cs.length, cs[i]? = some '\r' → cs[i + 1]? = some '\n')
    ⟨fun h i hi => h i (List.getElem?_eq_some_iff.mp hi).1 hi, fun h i _ hi => h i hi⟩

theorem ReturnsPaired.append {cs ds : List Char} (hcs : ReturnsPaired cs) (hds : ReturnsPaired ds) :
    ReturnsPaired (cs ++ ds) := by
  intro i hi
  by_cases hlt : i < cs.length
  · rw [List.getElem?_append_left hlt] at hi
    have hnext := hcs i hi
    obtain ⟨hlt', _⟩ := List.getElem?_eq_some_iff.mp hnext
    rwa [List.getElem?_append_left hlt']
  · have hle : cs.length ≤ i := Nat.le_of_not_lt hlt
    rw [List.getElem?_append_right hle] at hi
    have hnext := hds _ hi
    rw [List.getElem?_append_right (Nat.le_add_right_of_le hle), Nat.sub_add_comm hle]
    exact hnext

/-- On a line of such a text a carriage return can only be the last character. -/
theorem ReturnsPaired.last_of_mem {cs ds : List Char} (h : ReturnsPaired cs)
    (hds : ds ∈ splitAtChar '\n' cs) {i : Nat} (hi : ds[i]? = some '\r') :
    i + 1 = ds.length := by
  obtain ⟨before, after, rfl⟩ := isInfix_of_mem_splitAtChar hds
  obtain ⟨hlt, _⟩ := List.getElem?_eq_some_iff.mp hi
  refine Decidable.byContradiction fun hne => ?_
  have hat : ∀ k, k < ds.length → (before ++ ds ++ after)[before.length + k]? = ds[k]? := by
    intro k hk
    rw [List.append_assoc, List.getElem?_append_right (Nat.le_add_right _ _), Nat.add_sub_cancel_left,
      List.getElem?_append_left hk]
  have hnext := h (before.length + i) ((hat i hlt).trans hi)
  rw [Nat.add_assoc, hat (i + 1) (by omega)] at hnext
  exact not_mem_of_mem_splitAtChar hds (List.mem_of_getElem? hnext)

/-- What such a line shows holds no carriage return. -/
theorem ReturnsPaired.not_mem_dropTrailing {cs ds : List Char} (h : ReturnsPaired cs)
    (hds : ds ∈ splitAtChar '\n' cs) : '\r' ∉ dropTrailing '\r' ds := by
  intro hmem
  obtain ⟨i, hi⟩ := List.mem_iff_getElem?.mp hmem
  obtain ⟨hlt, _⟩ := List.getElem?_eq_some_iff.mp hi
  have hreturn : ds[i]? = some '\r' := by
    obtain ⟨dropped, hdropped⟩ := isPrefix_dropTrailing '\r' ds
    rw [← hdropped, List.getElem?_append_left hlt, hi]
  have hlength := h.last_of_mem hds hreturn
  -- so the line ends in it, and what is left ends before it
  obtain ⟨init, rfl⟩ : ∃ init, ds = init ++ ['\r'] := by
    have hne : ds ≠ [] := List.ne_nil_of_length_pos (by omega)
    have hlast : ds.getLast hne = '\r' := by
      rw [List.getLast_eq_getElem]
      refine Option.some.inj (Eq.trans ?_ hreturn)
      rw [← List.getElem?_eq_getElem, ← hlength, Nat.add_sub_cancel]
    exact ⟨ds.dropLast, by rw [← hlast, List.dropLast_concat_getLast]⟩
  rw [dropTrailing_concat] at hlt
  have hle := (isPrefix_dropTrailing '\r' init).length_le
  rw [List.length_append, List.length_singleton] at hlength
  omega

/-! ## Lengths in sixteen-bit units -/

theorem units16_cons (c : Char) (cs : List Char) : units16 (c :: cs) = charUnits16 c + units16 cs := rfl

theorem units16_append : ∀ cs ds : List Char, units16 (cs ++ ds) = units16 cs + units16 ds
  | [], ds => (Nat.zero_add _).symm
  | c :: cs, ds => by
    rw [List.cons_append, units16_cons, units16_cons, units16_append cs ds, Nat.add_assoc]

theorem charUnits16_pos (c : Char) : 0 < charUnits16 c := by
  unfold charUnits16
  split <;> decide

theorem units16_eq_zero {cs : List Char} : units16 cs = 0 ↔ cs = [] := by
  cases cs with
  | nil => exact ⟨fun _ => rfl, fun _ => rfl⟩
  | cons c cs =>
    have hpos := charUnits16_pos c
    rw [units16_cons]
    refine ⟨fun h => ?_, fun h => absurd h (List.cons_ne_nil c cs)⟩
    omega

theorem units16_le_of_prefix {cs ds : List Char} (h : cs <+: ds) : units16 cs ≤ units16 ds := by
  obtain ⟨more, rfl⟩ := h
  rw [units16_append]
  exact Nat.le_add_right _ _

end Highlight.Text
