import Highlight.Proofs.Text.Lines

/-!
# Lines that end at any boundary

A text falls into lines at its line feeds (`splitAtChar`), and into finer ones at all its boundaries
(`linesKeepingEnds`).  A line feed ends a line of either kind, so the finer lines of a text are those of
its first line, those of the second, and so on (`linesKeepingEnds_append_lineFeed`).

The two are the same up to a place if the lines before it are whole: they hold no boundary but the line
feed at their end, or the carriage return before it (`IsWhole.linesKeepingEnds_eq`).
-/

namespace Highlight.Text

variable {body rest : List Char} {c : Char}

/-! ## The first line -/

theorem linesKeepingEnds_return (rest : List Char) :
    linesKeepingEnds ('\r' :: '\n' :: rest) = ['\r', '\n'] :: linesKeepingEnds rest := by
  rw [linesKeepingEnds]

/-- A boundary is a line, unless it is a carriage return before a line feed. -/
theorem linesKeepingEnds_of_boundary (hc : isLineBoundary c = true)
    (h : c = '\r' → rest.head? ≠ some '\n') :
    linesKeepingEnds (c :: rest) = [c] :: linesKeepingEnds rest := by
  have hpair : ∀ tail, c = '\r' → rest = '\n' :: tail → False := by
    rintro tail hreturn rfl
    exact h hreturn rfl
  rw [linesKeepingEnds.eq_3 c rest hpair, if_pos hc]

theorem linesKeepingEnds_lineFeed (rest : List Char) :
    linesKeepingEnds ('\n' :: rest) = ['\n'] :: linesKeepingEnds rest :=
  linesKeepingEnds_of_boundary rfl fun h => absurd h (by decide)

/-- Any other character belongs to the line after it. -/
theorem linesKeepingEnds_of_not_boundary (hc : isLineBoundary c = false) (rest : List Char) :
    linesKeepingEnds (c :: rest) =
      match linesKeepingEnds rest with
      | [] => [[c]]
      | line :: lines => (c :: line) :: lines := by
  have hpair : ∀ tail, c = '\r' → rest = '\n' :: tail → False := by
    rintro tail rfl
    exact absurd hc (by decide)
  exact (linesKeepingEnds.eq_3 c rest hpair).trans (if_neg (Bool.eq_false_iff.mp hc))

/-- **The lines of a text make it up.** -/
theorem flatten_linesKeepingEnds (cs : List Char) : (linesKeepingEnds cs).flatten = cs := by
  fun_induction linesKeepingEnds cs <;> simp_all

theorem linesKeepingEnds_ne_nil {cs : List Char} (h : cs ≠ []) : linesKeepingEnds cs ≠ [] := by
  intro hnil
  have hflatten := flatten_linesKeepingEnds cs
  rw [hnil] at hflatten
  exact h hflatten.symm

/-- Text without a boundary belongs to the line after it. -/
theorem linesKeepingEnds_append (hbody : ∀ c ∈ body, isLineBoundary c = false) {line : List Char}
    {lines : List (List Char)} (h : linesKeepingEnds rest = line :: lines) :
    linesKeepingEnds (body ++ rest) = (body ++ line) :: lines := by
  induction body with
  | nil => exact h
  | cons c body ih =>
    have hc := hbody c List.mem_cons_self
    rw [List.cons_append, linesKeepingEnds_of_not_boundary hc,
      ih fun d hd => hbody d (List.mem_cons_of_mem c hd)]
    rfl

/-- It is a line if nothing comes after it. -/
theorem linesKeepingEnds_of_free (hbody : ∀ c ∈ body, isLineBoundary c = false) (hne : body ≠ []) :
    linesKeepingEnds body = [body] := by
  induction body with
  | nil => exact absurd rfl hne
  | cons c body ih =>
    rw [linesKeepingEnds_of_not_boundary (hbody c List.mem_cons_self)]
    cases body with
    | nil => rfl
    | cons d body => rw [ih (fun e he => hbody e (List.mem_cons_of_mem c he)) (List.cons_ne_nil d body)]

/-- A text has no boundary, or a first one. -/
theorem free_or_exists_boundary : ∀ cs : List Char, (∀ c ∈ cs, isLineBoundary c = false) ∨
    ∃ body c after, cs = body ++ c :: after ∧ (∀ d ∈ body, isLineBoundary d = false) ∧
      isLineBoundary c = true
  | [] => Or.inl fun _ hc => absurd hc List.not_mem_nil
  | c :: cs => by
    by_cases hc : isLineBoundary c = true
    · exact Or.inr ⟨[], c, cs, rfl, fun _ hd => absurd hd List.not_mem_nil, hc⟩
    · have hc : isLineBoundary c = false := Bool.eq_false_iff.mpr hc
      rcases free_or_exists_boundary cs with hfree | ⟨body, d, after, rfl, hbody, hd⟩
      · exact Or.inl (List.forall_mem_cons.mpr ⟨hc, hfree⟩)
      · exact Or.inr ⟨c :: body, d, after, rfl, List.forall_mem_cons.mpr ⟨hc, hbody⟩, hd⟩

/-! ## The lines between line feeds -/

theorem splitAtChar_of_notMem {cs : List Char} (h : c ∉ cs) : splitAtChar c cs = [cs] := by
  induction cs with
  | nil => rfl
  | cons d cs ih =>
    obtain ⟨hd, hcs⟩ := List.ne_and_not_mem_of_not_mem_cons h
    rw [splitAtChar, if_neg (Ne.symm hd), ih hcs]

/-- The first line of a text with a line feed, and the others. -/
theorem splitAtChar_lineFeed {line : List Char} (h : '\n' ∉ line) (rest : List Char) :
    splitAtChar '\n' (line ++ '\n' :: rest) = line :: splitAtChar '\n' rest := by
  rw [splitAtChar_append_cons, splitAtChar_of_notMem h]
  rfl

/-- A text is one line, or has a first one. -/
theorem one_line_or_exists_first (cs : List Char) :
    '\n' ∉ cs ∨ ∃ line rest, cs = line ++ '\n' :: rest ∧ '\n' ∉ line := by
  by_cases h : '\n' ∈ cs
  · exact Or.inr (List.eq_append_cons_of_mem h)
  · exact Or.inl h

/-- **A line feed ends a line of either kind.** -/
theorem linesKeepingEnds_append_lineFeed : ∀ {cs : List Char}, '\n' ∉ cs → ∀ rest : List Char,
    linesKeepingEnds (cs ++ '\n' :: rest) = linesKeepingEnds (cs ++ ['\n']) ++ linesKeepingEnds rest
  | [], _, rest => by
    rw [List.nil_append, List.nil_append, linesKeepingEnds_lineFeed, linesKeepingEnds_lineFeed]
    rfl
  | c :: cs, h, rest => by
    obtain ⟨_, hcs⟩ := List.ne_and_not_mem_of_not_mem_cons h
    have ih := linesKeepingEnds_append_lineFeed hcs rest
    rw [List.cons_append, List.cons_append]
    by_cases hc : isLineBoundary c = true
    · cases cs with
      | nil =>
        by_cases hreturn : c = '\r'
        · rw [hreturn, List.nil_append, List.nil_append, linesKeepingEnds_return,
            linesKeepingEnds_return]
          rfl
        · rw [linesKeepingEnds_of_boundary hc fun h => absurd h hreturn,
            linesKeepingEnds_of_boundary hc fun h => absurd h hreturn, ih]
          rfl
      | cons d cs =>
        have hd : d ≠ '\n' := fun he => hcs (he ▸ List.mem_cons_self)
        rw [linesKeepingEnds_of_boundary hc fun _ => by simpa using hd,
          linesKeepingEnds_of_boundary hc fun _ => by simpa using hd, ih]
        rfl
    · have hc : isLineBoundary c = false := Bool.eq_false_iff.mpr hc
      rw [linesKeepingEnds_of_not_boundary hc, linesKeepingEnds_of_not_boundary hc, ih]
      obtain ⟨line, lines, hlines⟩ := List.exists_cons_of_ne_nil
        (linesKeepingEnds_ne_nil (List.append_ne_nil_of_right_ne_nil cs (List.cons_ne_nil '\n' [])))
      rw [hlines]
      rfl

theorem length_linesKeepingEnds_pos (line : List Char) :
    0 < (linesKeepingEnds (line ++ ['\n'])).length :=
  List.length_pos_iff.mpr
    (linesKeepingEnds_ne_nil (List.append_ne_nil_of_right_ne_nil line (List.cons_ne_nil '\n' [])))

/-! ## Whole lines -/

/-- A line that holds no boundary, except perhaps a carriage return at its end. -/
def IsWhole (line : List Char) : Prop :=
  ∃ body, (line = body ∨ line = body ++ ['\r']) ∧ ∀ c ∈ body, isLineBoundary c = false

/-- **A whole line is one line of either kind.** -/
theorem IsWhole.linesKeepingEnds_eq {line : List Char} (h : IsWhole line) :
    linesKeepingEnds (line ++ ['\n']) = [line ++ ['\n']] := by
  obtain ⟨body, rfl | rfl, hbody⟩ := h
  · exact linesKeepingEnds_append hbody (linesKeepingEnds_lineFeed [])
  · rw [List.append_assoc]
    exact linesKeepingEnds_append hbody (linesKeepingEnds_return [])

/-- Any other line is more than one. -/
theorem isWhole_or_two_le {line : List Char} (h : '\n' ∉ line) :
    IsWhole line ∨ 2 ≤ (linesKeepingEnds (line ++ ['\n'])).length := by
  rcases free_or_exists_boundary line with hfree | ⟨body, c, after, rfl, hbody, hc⟩
  · exact Or.inl ⟨line, Or.inl rfl, hfree⟩
  · by_cases hreturn : c = '\r' ∧ after = []
    · obtain ⟨rfl, rfl⟩ := hreturn
      exact Or.inl ⟨body, Or.inr rfl, hbody⟩
    · have hnext : c = '\r' → (after ++ ['\n']).head? ≠ some '\n' := by
        intro hcr
        cases after with
        | nil => exact absurd ⟨hcr, rfl⟩ hreturn
        | cons d after =>
          intro hd
          obtain rfl : d = '\n' := by simpa using hd
          exact h (by simp)
      have hlines := linesKeepingEnds_append hbody (linesKeepingEnds_of_boundary hc hnext)
      rw [List.append_assoc, List.cons_append, hlines]
      exact Or.inr (Nat.succ_le_succ (length_linesKeepingEnds_pos after))

end Highlight.Text
