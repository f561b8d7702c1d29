import Highlight.GrammarError
import Highlight.Proofs.Text.Boundaries

/-!
# The line that a report shows

A report counts lines by line feeds, and shows one of the lines that all boundaries make.  Where the
lines before the place are whole, it shows the line of the place, up to its first boundary if that is
not its last character (`shownLine_iff`).  Where one of them is not, the count is too small, and what is
shown is a part of an earlier line (`exists_earlier`).

The caret always stands under the column of the place, as if the right line were shown (`exists_lead`).
-/

namespace Highlight.Diagnostic

open Text

/-! ## Lines before the one shown -/

section Earlier

variable {line rest : List Char} {i : Nat}

/-- The first lines shown are those of the first line. -/
theorem shownLine_of_lt (h : '\n' ∉ line) (hi : i < (linesKeepingEnds (line ++ ['\n'])).length) :
    ∃ part ∈ linesKeepingEnds (line ++ ['\n']),
      shownLine (line ++ '\n' :: rest) (i + 1) = dropTrailing '\r' (dropTrailing '\n' part) := by
  refine ⟨_, List.getElem_mem hi, ?_⟩
  rw [shownLine, Nat.add_sub_cancel, linesKeepingEnds_append_lineFeed h, List.getElem?_append_left hi,
    List.getElem?_eq_getElem hi]

/-- The others are those of the text after it. -/
theorem shownLine_after (h : '\n' ∉ line) (hi : (linesKeepingEnds (line ++ ['\n'])).length ≤ i) :
    shownLine (line ++ '\n' :: rest) (i + 1) =
      shownLine rest (i - (linesKeepingEnds (line ++ ['\n'])).length + 1) := by
  rw [shownLine, shownLine, Nat.add_sub_cancel, Nat.add_sub_cancel, linesKeepingEnds_append_lineFeed h,
    List.getElem?_append_right hi]

/-- If the first line is whole, they are the lines after it. -/
theorem shownLine_after_whole (h : '\n' ∉ line) (hwhole : IsWhole line) :
    shownLine (line ++ '\n' :: rest) (i + 1 + 1) = shownLine rest (i + 1) := by
  have hlength : (linesKeepingEnds (line ++ ['\n'])).length = 1 := by
    rw [hwhole.linesKeepingEnds_eq]
    rfl
  rw [shownLine_after h (by omega), hlength, Nat.add_sub_cancel]

end Earlier

/-- **What is shown for a line with a line feed** is a part of that line or of an earlier one. -/
theorem exists_part (source : List Char) (i : Nat) (h : i + 1 < (splitAtChar '\n' source).length) :
    ∃ line ∈ (splitAtChar '\n' source).take (i + 1), ∃ part ∈ linesKeepingEnds (line ++ ['\n']),
      shownLine source (i + 1) = dropTrailing '\r' (dropTrailing '\n' part) := by
  induction i using Nat.strongRecOn generalizing source with
  | ind i ih =>
    rcases one_line_or_exists_first source with hone | ⟨line, rest, rfl, hline⟩
    · rw [splitAtChar_of_notMem hone] at h
      exact absurd h (by simp)
    · rw [splitAtChar_lineFeed hline, List.length_cons] at h
      rw [splitAtChar_lineFeed hline, List.take_succ_cons]
      by_cases hi : i < (linesKeepingEnds (line ++ ['\n'])).length
      · exact ⟨line, List.mem_cons_self, shownLine_of_lt hline hi⟩
      · have hle := Nat.le_of_not_lt hi
        have hpos := length_linesKeepingEnds_pos line
        obtain ⟨other, hother, hpart⟩ :=
          ih (i - (linesKeepingEnds (line ++ ['\n'])).length) (by omega) rest (by omega)
        rw [shownLine_after hline hle]
        refine ⟨other, List.mem_cons_of_mem line ?_, hpart⟩
        exact List.take_subset_take_left _ (by omega) hother

/-- **Behind a line that is not whole** a part of an earlier line is shown. -/
theorem exists_earlier (source : List Char) (i : Nat) (h : i < (splitAtChar '\n' source).length)
    (hnot : ¬ ∀ line ∈ (splitAtChar '\n' source).take i, IsWhole line) :
    ∃ line ∈ (splitAtChar '\n' source).take i, ∃ part ∈ linesKeepingEnds (line ++ ['\n']),
      shownLine source (i + 1) = dropTrailing '\r' (dropTrailing '\n' part) := by
  induction i generalizing source with
  | zero => exact absurd (fun _ hline => absurd hline List.not_mem_nil) hnot
  | succ i ih =>
    rcases one_line_or_exists_first source with hone | ⟨line, rest, rfl, hline⟩
    · rw [splitAtChar_of_notMem hone] at h
      exact absurd h (by simp)
    · rw [splitAtChar_lineFeed hline, List.length_cons] at h
      rw [splitAtChar_lineFeed hline, List.take_succ_cons] at hnot ⊢
      rcases isWhole_or_two_le hline with hwhole | htwo
      · have hrest : ¬ ∀ other ∈ (splitAtChar '\n' rest).take i, IsWhole other :=
          fun hall => hnot (List.forall_mem_cons.mpr ⟨hwhole, hall⟩)
        obtain ⟨other, hother, hpart⟩ := ih rest (by omega) hrest
        rw [shownLine_after_whole hline hwhole]
        exact ⟨other, List.mem_cons_of_mem line hother, hpart⟩
      · by_cases hi : i + 1 < (linesKeepingEnds (line ++ ['\n'])).length
        · exact ⟨line, List.mem_cons_self, shownLine_of_lt hline hi⟩
        · -- two lines or more are counted as one, so the others are behind by one
          obtain ⟨other, hother, hpart⟩ :=
            exists_part rest (i + 1 - (linesKeepingEnds (line ++ ['\n'])).length) (by omega)
          rw [shownLine_after hline (Nat.le_of_not_lt hi)]
          refine ⟨other, List.mem_cons_of_mem line ?_, hpart⟩
          exact List.take_subset_take_left _ (by omega) hother

/-! ## The line of the place -/

/-- Without a boundary, the first line is shown as it is. -/
theorem shownLine_of_free {line tail : List Char} (hfree : ∀ c ∈ line, isLineBoundary c = false)
    (htail : tail = [] ∨ tail.head? = some '\n') : shownLine (line ++ tail) 1 = line := by
  have hfeed : '\n' ∉ line := fun hmem => absurd (hfree '\n' hmem) (by decide)
  have hreturn : '\r' ∉ line := fun hmem => absurd (hfree '\r' hmem) (by decide)
  rcases htail with rfl | htail
  · rw [List.append_nil]
    cases line with
    | nil => rfl
    | cons c line =>
      rw [shownLine, linesKeepingEnds_of_free hfree (List.cons_ne_nil c line)]
      show dropTrailing '\r' (dropTrailing '\n' (c :: line)) = c :: line
      rw [dropTrailing_of_notMem hfeed, dropTrailing_of_notMem hreturn]
  · obtain ⟨rest, rfl⟩ := List.head?_eq_some_iff.mp htail
    rw [shownLine, linesKeepingEnds_append hfree (linesKeepingEnds_lineFeed rest)]
    show dropTrailing '\r' (dropTrailing '\n' (line ++ ['\n'])) = line
    rw [dropTrailing_concat, dropTrailing_of_notMem hfeed, dropTrailing_of_notMem hreturn]

/-- Else it is shown up to its first boundary. -/
theorem shownLine_of_boundary {body after : List Char} {c : Char}
    (hbody : ∀ d ∈ body, isLineBoundary d = false) (hc : isLineBoundary c = true) (hne : c ≠ '\n') :
    shownLine (body ++ c :: after) 1 = dropTrailing '\r' (body ++ [c]) := by
  have hfeed : '\n' ∉ body ++ [c] := by
    intro hmem
    rcases List.mem_append.mp hmem with hmem | hmem
    · exact absurd (hbody '\n' hmem) (by decide)
    · exact hne (List.mem_singleton.mp hmem).symm
  by_cases hpair : c = '\r' ∧ after.head? = some '\n'
  · obtain ⟨rfl, hafter⟩ := hpair
    obtain ⟨rest, rfl⟩ := List.head?_eq_some_iff.mp hafter
    rw [shownLine, linesKeepingEnds_append hbody (linesKeepingEnds_return rest)]
    show dropTrailing '\r' (dropTrailing '\n' (body ++ (['\r'] ++ ['\n']))) = _
    rw [← List.append_assoc, dropTrailing_concat, dropTrailing_of_notMem hfeed]
  · have hline := linesKeepingEnds_of_boundary hc fun h hnext => hpair ⟨h, hnext⟩
    rw [shownLine, linesKeepingEnds_append hbody hline]
    show dropTrailing '\r' (dropTrailing '\n' (body ++ [c])) = _
    rw [dropTrailing_of_notMem hfeed]

/-- **The first line is shown exactly if it has no boundary before its last character**, apart from the
carriage returns at its end. -/
theorem shownLine_first {line tail : List Char} (h : '\n' ∉ line)
    (htail : tail = [] ∨ tail.head? = some '\n') :
    shownLine (line ++ tail) 1 = dropTrailing '\r' line ↔
      ∀ c ∈ (dropTrailing '\r' line).dropLast, isLineBoundary c = false := by
  rcases free_or_exists_boundary line with hfree | ⟨body, c, after, rfl, hbody, hc⟩
  · have hreturn : '\r' ∉ line := fun hmem => absurd (hfree '\r' hmem) (by decide)
    rw [shownLine_of_free hfree htail, dropTrailing_of_notMem hreturn]
    exact iff_of_true rfl fun c hc => hfree c (List.dropLast_subset _ hc)
  · have hne : c ≠ '\n' := fun he => h (by simp [he])
    have hshown := @shownLine_of_boundary body (after ++ tail) c hbody hc hne
    have hstart := isPrefix_dropTrailing '\r' (body ++ [c])
    have hjoin : body ++ c :: after = body ++ [c] ++ after := by simp
    rw [List.append_assoc, List.cons_append, hshown, hjoin, dropTrailing_append '\r' (body ++ [c]) after]
    split
    · -- only carriage returns are left of the line
      refine iff_of_true rfl fun d hd => ?_
      rcases List.prefix_concat_iff.mp hstart with hall | hbefore
      · rw [hall, List.dropLast_concat] at hd
        exact hbody d hd
      · exact hbody d (hbefore.subset (List.dropLast_subset _ hd))
    · next hmore =>
      refine iff_of_false (fun hsame => ?_) fun hfree => ?_
      · have hle := hstart.length_le
        rw [hsame, List.length_append] at hle
        have hpos := List.length_pos_iff.mpr hmore
        omega
      · rw [List.dropLast_append_of_ne_nil hmore] at hfree
        exact absurd hc (by simp [hfree c (by simp)])

/-- **Behind whole lines the line of the place is shown**, up to its first boundary. -/
theorem shownLine_iff {line : List Char} (source : List Char) (i : Nat)
    (h : (splitAtChar '\n' source)[i]? = some line)
    (hwhole : ∀ earlier ∈ (splitAtChar '\n' source).take i, IsWhole earlier) :
    shownLine source (i + 1) = dropTrailing '\r' line ↔
      ∀ c ∈ (dropTrailing '\r' line).dropLast, isLineBoundary c = false := by
  induction i generalizing source with
  | zero =>
    rcases one_line_or_exists_first source with hone | ⟨first, rest, rfl, hfirst⟩
    · rw [splitAtChar_of_notMem hone] at h
      obtain rfl : source = line := by simpa using h
      have hshown := @shownLine_first source [] hone (Or.inl rfl)
      rwa [List.append_nil] at hshown
    · rw [splitAtChar_lineFeed hfirst] at h
      obtain rfl : first = line := by simpa using h
      exact shownLine_first hfirst (Or.inr rfl)
  | succ i ih =>
    rcases one_line_or_exists_first source with hone | ⟨first, rest, rfl, hfirst⟩
    · rw [splitAtChar_of_notMem hone] at h
      exact absurd h (by simp)
    · rw [splitAtChar_lineFeed hfirst] at h hwhole
      rw [List.take_succ_cons, List.forall_mem_cons] at hwhole
      rw [shownLine_after_whole hfirst hwhole.1]
      exact ih rest h hwhole.2

/-! ## Reports -/

theorem length_spaces (n : Nat) : (spaces n).length = n := by
  rw [spaces, String.length_ofList, List.length_replicate]

/-- What a report ends with. -/
def patternLine : Option String → String
  | some pattern => s!"\n  pattern: {pattern}"
  | none => ""

theorem format_eq_append (message filename : String) (pattern : Option String) (source : List Char)
    (offset : Int) :
    format { message, pattern, offset := some offset, source := some source } filename =
      snippet message filename source offset ++ patternLine pattern := by
  cases pattern with
  | none => exact String.append_empty.symm
  | some pattern => exact String.append_assoc

/-- **The lines of a report**: what stands before the source line is as long as what stands before the
spaces in front of the caret. -/
theorem exists_lead (message filename : String) (source : List Char) (offset : Int) {p : Position}
    (hp : positionAt source offset = p) : ∃ gutter lead : String,
      lead.length = s!"{p.line} | ".length ∧ snippet message filename source offset =
        s!"error: {message}\n{gutter}--> {filename}:{p.line}:{p.column}\n{gutter}|\n" ++
        s!"{p.line} | {String.ofList (shownLine source p.line)}\n" ++
        s!"{lead}{spaces (p.column - 1)}^" := by
  refine ⟨spaces ((toString p.line).length + 1), spaces ((toString p.line).length + 1) ++ "| ", ?_, ?_⟩
  · rw [String.length_append, length_spaces]
    exact (String.length_append (s := toString p.line) (t := " | ")).symm
  · subst hp
    simp [snippet, toString, String.append_assoc]

/-- The line of a place, from its start to the place and on. -/
theorem exists_line_of_positionAt {source : List Char} {offset : Int} {p : Position}
    (hp : positionAt source offset = p) : ∃ rest, p.offset = min offset.toNat source.length ∧
      (splitAtChar '\n' source)[p.line - 1]? = some (lastLine (source.take p.offset) ++ rest) ∧
      p.column = (lastLine (source.take p.offset)).length + 1 := by
  subst hp
  obtain ⟨rest, hline⟩ := exists_line_take source (clampOffset source offset)
  have hoffset : (positionAt source offset).offset = clampOffset source offset := by
    simp [positionAt, clampOffset]
  refine ⟨rest, hoffset, ?_, ?_⟩
  · rw [hoffset]
    exact hline
  · rw [hoffset]
    rfl

/-- **What a report shows**, for every text and every offset.  Line and column are those of the position.
The caret stands as far to the right as the place is in its line.  Behind whole lines that line is shown,
up to its first boundary; behind others, one of the parts of an earlier line. -/
theorem format_shows (message filename : String) (pattern : Option String) (source : List Char)
    (offset : Int) : ∃ (p : Position) (line rest : List Char) (gutter lead : String),
    positionAt source offset = p ∧ p.offset = min offset.toNat source.length ∧
    (splitAtChar '\n' source)[p.line - 1]? = some line ∧
    line = lastLine (source.take p.offset) ++ rest ∧
    p.column = (lastLine (source.take p.offset)).length + 1 ∧
    lead.length = s!"{p.line} | ".length ∧
    format { message, pattern, offset := some offset, source := some source } filename =
      s!"error: {message}\n{gutter}--> {filename}:{p.line}:{p.column}\n{gutter}|\n" ++
      s!"{p.line} | {String.ofList (shownLine source p.line)}\n" ++
      s!"{lead}{spaces (p.column - 1)}^" ++ patternLine pattern ∧
    ((∀ earlier ∈ (splitAtChar '\n' source).take (p.line - 1), IsWhole earlier) →
      (shownLine source p.line = dropTrailing '\r' line ↔
        ∀ c ∈ (dropTrailing '\r' line).dropLast, isLineBoundary c = false)) ∧
    ((¬ ∀ earlier ∈ (splitAtChar '\n' source).take (p.line - 1), IsWhole earlier) →
      ∃ earlier ∈ (splitAtChar '\n' source).take (p.line - 1),
        ∃ part ∈ linesKeepingEnds (earlier ++ ['\n']),
          shownLine source p.line = dropTrailing '\r' (dropTrailing '\n' part)) := by
  obtain ⟨p, hp⟩ : ∃ p, positionAt source offset = p := ⟨_, rfl⟩
  obtain ⟨rest, hoffset, hline, hcolumn⟩ := exists_line_of_positionAt hp
  obtain ⟨gutter, lead, hlead, hsnippet⟩ := exists_lead message filename source offset hp
  have hnumber : p.line - 1 + 1 = p.line := by
    rw [← hp]
    rfl
  refine ⟨p, _, rest, gutter, lead, hp, hoffset, hline, rfl, hcolumn, hlead, ?_, fun hwhole => ?_, fun hnot => ?_⟩
  · rw [format_eq_append, hsnippet]
  · have hshown := shownLine_iff source (p.line - 1) hline hwhole
    rwa [hnumber] at hshown
  · have hearlier := exists_earlier source (p.line - 1) (List.getElem?_eq_some_iff.mp hline).1 hnot
    rwa [hnumber] at hearlier

/-- A carriage return before a line feed does no harm. -/
theorem format_shows_return : ∃ p line, positionAt ['a', '\r', '\n', 'b', '!', '\r', '\n'] 4 = p ∧
    p.line = 2 ∧ p.column = 2 ∧ line = ['b', '!', '\r'] ∧
    shownLine ['a', '\r', '\n', 'b', '!', '\r', '\n'] p.line = dropTrailing '\r' line := by
  obtain ⟨p, line, _, _, _, rfl, _, hline, _, _, _, _, hshown, _⟩ :=
    format_shows "message" "file" none ['a', '\r', '\n', 'b', '!', '\r', '\n'] 4
  have hsecond : some ['b', '!', '\r'] = some line := hline
  obtain rfl := Option.some.inj hsecond
  refine ⟨_, _, rfl, rfl, rfl, rfl, (hshown ?_).mpr ?_⟩
  · intro earlier hearlier
    obtain rfl : earlier = ['a', '\r'] := List.mem_singleton.mp hearlier
    exact ⟨['a'], Or.inr rfl, List.forall_mem_singleton.mpr rfl⟩
  · show ∀ c ∈ ['b'], isLineBoundary c = false
    exact List.forall_mem_singleton.mpr rfl

/-- A form feed on the first line: of an error on the second, what is shown is the end of the first. -/
theorem report_formFeed :
    positionAt ['a', '\x0c', 'b', '\n', 'c', '!'] 5 = ⟨2, 2, 5⟩ ∧
    (splitAtChar '\n' ['a', '\x0c', 'b', '\n', 'c', '!'])[1]? = some ['c', '!'] ∧
    (GrammarError.emptyMatch "bang" "(?=!)" 5 ['a', '\x0c', 'b', '\n', 'c', '!']).report =
      "error: rule 'bang' produced an empty match\n  --> <input>:2:2\n  |\n2 | b\n  |  ^\n" ++
      "  pattern: (?=!)" ∧
    shownLine ['a', '\x0c', 'b', '\n', 'c', '!'] 2 ≠ dropTrailing '\r' ['c', '!'] := by
  refine ⟨rfl, rfl, ?_, by decide⟩
  decide +kernel

end Highlight.Diagnostic
