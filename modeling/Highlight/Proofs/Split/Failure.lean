import Highlight.Lexer
import Highlight.Proofs.Split.Recursion
import Highlight.Proofs.Text.Lines

/-!
# Where splitting fails

Splitting ends at the first selection that is empty.  That may be in the source itself, or in text that
was skipped, which is split as a text of its own: the search that fails then runs in a part of a part of
the source.  `FailsAt` follows the splitting down to that search and keeps count of where the part lies.

The program does not: an error carries the part as its source, and the place within the part.

* `Walk.run_fails`: the stack of pending pieces fails where the splitting fails.  The pieces below the
  first one do not matter until it is done (`Walk.run_append`), so a failure is traced piece by piece.
* `run_fails`: so do the steps of a grammar.
* `FailsAt.locates`: the part stands in the source at its base, and is the source exactly if no text was
  skipped on the way to it.
-/

namespace Highlight

open Text

/-- An empty selection that ends a splitting. -/
structure Failure where
  rule : Rule
  /-- How many times the text searched was skipped text of the text around it. -/
  depth : Nat
  /-- Where the text searched starts in the source. -/
  base : Nat
  /-- The text searched. -/
  part : List Char
  /-- Where the empty span lies in the text searched. -/
  offset : Nat

namespace Failure

/-- The error that the program reports. -/
def error (f : Failure) : GrammarError := .emptyMatch f.rule.tag f.rule.text f.offset f.part

/-- Where the empty span lies in the source. -/
def place (f : Failure) : Nat := f.base + f.offset

/-- A failure in the text skipped from `cursor` on, seen from the text around. -/
def skippedFrom (f : Failure) (cursor : Nat) : Failure :=
  { f with depth := f.depth + 1, base := cursor + f.base }

end Failure

/-- How splitting a text from a cursor on fails: at its first selection, in the text skipped before
that, or after both. -/
inductive FailsAt (rules : List Rule) : (text : List Char) → (cursor : Nat) → Failure → Prop
  | here {text : List Char} {cursor : Nat} {hit : Hit}
      (hfirst : firstSelection (Rule.complete rules) (text.drop cursor) = some hit)
      (hempty : hit.span.stop ≤ hit.span.start) :
      FailsAt rules text cursor ⟨hit.rule, 0, 0, text, hit.span.start + cursor⟩
  | skipped {text : List Char} {cursor : Nat} {hit : Hit} {f : Failure}
      (hfirst : firstSelection (Rule.complete rules) (text.drop cursor) = some hit)
      (hlt : hit.span.start < hit.span.stop)
      (hbefore : FailsAt rules ((text.drop cursor).take hit.span.start) 0 f) :
      FailsAt rules text cursor (f.skippedFrom cursor)
  | rest {text : List Char} {cursor : Nat} {hit : Hit} {before : List Token} {f : Failure}
      (hfirst : firstSelection (Rule.complete rules) (text.drop cursor) = some hit)
      (hlt : hit.span.start < hit.span.stop)
      (hbefore : splitRec rules ((text.drop cursor).take hit.span.start) = .ok before)
      (hafter : FailsAt rules text (hit.span.stop + cursor) f) : FailsAt rules text cursor f

/-! ## The search that fails -/

namespace FailsAt

variable {rules : List Rule} {text : List Char} {cursor : Nat} {f f' : Failure}

/-- The recursion ends at the rule of the failure. -/
theorem splitRec_eq (h : FailsAt rules text cursor f) :
    splitRec rules (text.drop cursor) = .error f.rule := by
  induction h with
  | here hfirst hempty => exact splitRec_of_empty hfirst hempty
  | skipped hfirst hlt _ ih =>
    rw [List.drop_zero] at ih
    rw [splitRec_of_lt hfirst hlt, ih]
    rfl
  | @rest text cursor hit before f hfirst hlt hbefore _ ih =>
    rw [splitRec_of_lt hfirst hlt, hbefore, List.drop_drop, Nat.add_comm cursor]
    show Except.map _ (splitRec rules (text.drop (hit.span.stop + cursor))) = _
    rw [ih]
    rfl

/-- A failure is at the first selection, in the text skipped before it, or in the rest, by whether the
selection is empty and the skipped text splits. -/
theorem of_first {hit : Hit} (h : FailsAt rules text cursor f)
    (hfirst : firstSelection (Rule.complete rules) (text.drop cursor) = some hit) :
    (hit.span.stop ≤ hit.span.start ∧ f = ⟨hit.rule, 0, 0, text, hit.span.start + cursor⟩) ∨
    hit.span.start < hit.span.stop ∧
      ((∃ g, FailsAt rules ((text.drop cursor).take hit.span.start) 0 g ∧ f = g.skippedFrom cursor) ∨
        (∃ before, splitRec rules ((text.drop cursor).take hit.span.start) = .ok before) ∧
          FailsAt rules text (hit.span.stop + cursor) f) := by
  cases h with
  | here hfirst' hempty =>
    obtain rfl := Option.some.inj (hfirst'.symm.trans hfirst)
    exact Or.inl ⟨hempty, rfl⟩
  | skipped hfirst' hlt hbefore =>
    obtain rfl := Option.some.inj (hfirst'.symm.trans hfirst)
    exact Or.inr ⟨hlt, Or.inl ⟨_, hbefore, rfl⟩⟩
  | rest hfirst' hlt hbefore hafter =>
    obtain rfl := Option.some.inj (hfirst'.symm.trans hfirst)
    exact Or.inr ⟨hlt, Or.inr ⟨⟨_, hbefore⟩, hafter⟩⟩

/-- **A splitting fails in one place only.** -/
theorem unique (h : FailsAt rules text cursor f) (h' : FailsAt rules text cursor f') : f = f' := by
  induction h generalizing f' with
  | here hfirst hempty =>
    rcases h'.of_first hfirst with ⟨_, rfl⟩ | ⟨hlt, _⟩
    · rfl
    · exact absurd hlt (Nat.not_lt.mpr hempty)
  | skipped hfirst hlt hbefore ih =>
    rcases h'.of_first hfirst with ⟨hempty, _⟩ | ⟨_, ⟨g, hg, rfl⟩ | ⟨⟨before, hok⟩, _⟩⟩
    · exact absurd hlt (Nat.not_lt.mpr hempty)
    · rw [ih hg]
    · exact absurd (hbefore.splitRec_eq.symm.trans hok) (by simp)
  | rest hfirst hlt hok hafter ih =>
    rcases h'.of_first hfirst with ⟨hempty, _⟩ | ⟨_, ⟨g, hg, rfl⟩ | ⟨_, hrest⟩⟩
    · exact absurd hlt (Nat.not_lt.mpr hempty)
    · exact absurd (hg.splitRec_eq.symm.trans hok) (by simp)
    · exact ih hrest

end FailsAt

/-- Where the text searched lies in the text that is split. -/
structure Failure.Locates (f : Failure) (text : List Char) : Prop where
  within : f.base + f.part.length ≤ text.length
  part : f.part = (text.drop f.base).take f.part.length
  top : f.depth = 0 → f.base = 0 ∧ f.part = text
  nested : f.depth ≠ 0 → f.part.length < text.length

/-- **The text searched stands in the text that is split at the base of the failure**, and is all of
it exactly if no text was skipped on the way. -/
theorem FailsAt.locates {rules : List Rule} {text : List Char} {cursor : Nat} {f : Failure}
    (h : FailsAt rules text cursor f) : f.Locates text := by
  induction h with
  | here _ _ =>
    exact ⟨Nat.le_of_eq (Nat.zero_add _), by simp, fun _ => ⟨rfl, rfl⟩, fun h => absurd rfl h⟩
  | @skipped text cursor hit f hfirst hlt _ ih =>
    have hstop := firstSelection_stop_le hfirst
    have hwithin := ih.within
    rw [List.length_drop] at hstop
    rw [List.length_take, List.length_drop] at hwithin
    refine ⟨?_, ?_, fun h => absurd h (Nat.succ_ne_zero _), fun _ => ?_⟩
    · show cursor + f.base + f.part.length ≤ text.length
      omega
    · have hpart := ih.part
      rw [List.drop_take, List.take_take, List.drop_drop, Nat.min_eq_left (by omega)] at hpart
      exact hpart
    · show f.part.length < text.length
      omega
  | rest _ _ _ _ ih => exact ih

/-- The rule of a failure is one of the table.  At the place of the failure it selects an empty span,
looking at the text searched from some cursor on. -/
theorem FailsAt.selects {rules : List Rule} {text : List Char} {cursor : Nat} {f : Failure}
    (h : FailsAt rules text cursor f) : f.rule ∈ rules ∧ ∃ start n,
      f.rule.select (f.part.drop start) = some ⟨n, n⟩ ∧ f.offset = n + start ∧
        f.offset ≤ f.part.length := by
  induction h with
  | @here text cursor hit hfirst hempty =>
    have hselect := (firstSelection_spec hfirst).2
    have hstop := Rule.select_stop_le hselect
    have hle := Rule.select_start_le_stop hselect
    have hspan : hit.span = ⟨hit.span.start, hit.span.start⟩ :=
      congrArg (Span.mk hit.span.start) (Nat.le_antisymm hempty hle)
    have hcursor : cursor ≤ text.length := by
      refine Nat.le_of_not_lt fun hlt => ?_
      rw [List.drop_eq_nil_of_le (Nat.le_of_lt hlt), firstSelection_complete_eq_none.mpr rfl] at hfirst
      exact absurd hfirst (by simp)
    rw [List.length_drop] at hstop
    refine ⟨mem_of_empty_selection hfirst hempty, cursor, hit.span.start, ?_, rfl, ?_⟩
    · rw [← hspan]
      exact hselect
    · show hit.span.start + cursor ≤ text.length
      omega
  | skipped _ _ _ ih => exact ih
  | rest _ _ _ _ ih => exact ih

/-! ## Skipped text -/

namespace Walk

/-- The first piece of work is worked on by itself. -/
theorem step_append (rules : List Rule) (p : Pending) (ps qs : List Pending) (done : List Token) :
    step rules ⟨p :: (ps ++ qs), done⟩ =
      (step rules ⟨p :: ps, done⟩).map fun w => ⟨w.pending ++ qs, w.done⟩ := by
  cases p with
  | token t => rfl
  | segment text cursor =>
    simp only [step]
    by_cases hc : text.length ≤ cursor
    · rw [if_pos hc, if_pos hc]
      rfl
    · rw [if_neg hc, if_neg hc]
      cases firstHit text cursor rules with
      | error e => rfl
      | ok hit =>
        dsimp only
        split <;> rfl

/-- **Work on a stack is work on its upper part, then on what lies below.** -/
theorem run_append (rules : List Rule) {e : GrammarError} : ∀ (n : Nat) (ps qs : List Pending)
    (done : List Token), run rules n ⟨ps ++ qs, done⟩ = .error e →
    run rules n ⟨ps, done⟩ = .error e ∨
    ∃ done' m, run rules n ⟨ps, done⟩ = .ok ⟨[], done'⟩ ∧ run rules m ⟨qs, done'⟩ = .error e
  | 0, _, _, _, h => absurd h (by simp [run])
  | n + 1, [], qs, done, h => Or.inr ⟨done, n + 1, rfl, h⟩
  | n + 1, p :: ps, qs, done, h => by
    rw [List.cons_append, run, step_append, Except.bind_map] at h
    rw [run]
    cases hstep : step rules ⟨p :: ps, done⟩ with
    | error e' =>
      rw [hstep] at h
      exact Or.inl h
    | ok w =>
      rw [hstep] at h
      exact run_append rules n w.pending qs w.done h

/-- Rounds of work keep what the recursion makes of it. -/
theorem outcome_run (rules : List Rule) : ∀ (n : Nat) {w w' : Walk},
    run (Rule.complete rules) n w = .ok w' → w'.outcome rules = w.outcome rules
  | 0, w, w', h => by
    obtain rfl := Except.ok.inj h
    rfl
  | n + 1, ⟨[], done⟩, w', h => by
    obtain rfl := Except.ok.inj h
    rfl
  | n + 1, ⟨p :: ps, done⟩, w', h => by
    rw [run] at h
    obtain ⟨w, hstep, hrun⟩ := Except.bind_eq_ok.mp h
    rcases step_alike rules p ps done with ⟨_, hstep', houtcome, _⟩ | ⟨_, _, _, herror, _⟩
    · obtain rfl := Except.ok.inj (hstep.symm.trans hstep')
      exact (outcome_run rules n hrun).trans houtcome
    · rw [hstep] at herror
      exact absurd herror (by simp)

/-- Where work on the text before a selection is done, the recursion splits that text. -/
theorem exists_splitRec_of_run {rules : List Rule} {n k : Nat} {text : List Char}
    {done done' : List Token}
    (h : run (Rule.complete rules) n ⟨if 0 < k then [.segment (text.take k) 0] else [], done⟩ =
      .ok ⟨[], done'⟩) : ∃ ts, splitRec rules (text.take k) = .ok ts := by
  by_cases hpos : 0 < k
  · rw [if_pos hpos] at h
    have houtcome := outcome_run rules n h
    simp only [outcome, Pending.outcomes, Pending.outcome, List.drop_zero] at houtcome
    obtain ⟨_, hts, _⟩ := Except.map_eq_ok.mp houtcome.symm
    obtain ⟨ts, hts, _⟩ := Except.bind_eq_ok.mp hts
    exact ⟨ts, hts⟩
  · obtain rfl : k = 0 := by omega
    exact ⟨[], splitRec_nil rules⟩

/-- **The stack fails where the splitting fails.** -/
theorem run_fails {rules : List Rule} {e : GrammarError} {text : List Char} {cursor : Nat} :
    ∀ {n : Nat} {done : List Token},
    run (Rule.complete rules) n ⟨[.segment text cursor], done⟩ = .error e →
    ∃ f, FailsAt rules text cursor f ∧ e = f.error := by
  -- on the text that is left, which is shorter both before a selection and after it
  induction hn : text.length - cursor using Nat.strongRecOn generalizing text cursor with
  | ind left ih =>
    intro n done h
    cases n with
    | zero => exact absurd h (by simp [run])
    | succ n =>
      rw [run] at h
      by_cases hc : cursor < text.length
      · obtain ⟨hit, hfirst⟩ := exists_firstSelection hc rules
        by_cases hlt : hit.span.start < hit.span.stop
        · have hstop := firstSelection_stop_le hfirst
          rw [List.length_drop] at hstop
          rw [step_of_lt hc hfirst hlt, expand] at h
          rcases run_append _ n _ _ _ h with habove | ⟨done', m, hok, hbelow⟩
          · by_cases hpos : 0 < hit.span.start
            · rw [if_pos hpos] at habove
              obtain ⟨f, hf, rfl⟩ := ih _ (by rw [List.length_take, List.length_drop]; omega) rfl habove
              exact ⟨f.skippedFrom cursor, .skipped hfirst hlt hf, rfl⟩
            · rw [if_neg hpos] at habove
              cases n <;> exact absurd habove (by simp [run])
          · obtain ⟨before, hbefore⟩ := exists_splitRec_of_run hok
            cases m with
            | zero => exact absurd hbelow (by simp [run])
            | succ m =>
              obtain ⟨f, hf, rfl⟩ := ih (text.length - (hit.span.stop + cursor)) (by omega) rfl hbelow
              exact ⟨f, .rest hfirst hlt hbefore hf, rfl⟩
        · have hempty := Nat.le_of_not_lt hlt
          rw [step_of_empty hc hfirst hempty] at h
          exact ⟨_, .here hfirst hempty, (Except.error.inj h).symm⟩
      · rw [step_of_le (Nat.le_of_not_lt hc)] at h
        cases n <;> exact absurd h (by simp [run, Except.bind])

end Walk

/-! ## Steps -/

/-- A step fails where the splitting fails. -/
theorem splitStep_fails {source : List Char} {cursor : Nat} {rules : List Rule} {e : GrammarError}
    (hc : cursor < source.length) (h : splitStep source cursor rules = .error e) :
    ∃ f, FailsAt rules source cursor f ∧ e = f.error := by
  obtain ⟨hit, hfirst⟩ := exists_firstSelection hc rules
  by_cases hlt : hit.span.start < hit.span.stop
  · rw [splitStep_of_lt hc hfirst hlt, Except.map_eq_error, splitSkipped, Except.map_eq_error] at h
    obtain ⟨f, hf, rfl⟩ := Walk.run_fails h
    exact ⟨f.skippedFrom cursor, .skipped hfirst hlt hf, rfl⟩
  · have hempty := Nat.le_of_not_lt hlt
    rw [splitStep_of_empty hc hfirst hempty] at h
    exact ⟨_, .here hfirst hempty, (Except.error.inj h).symm⟩

section Run

variable {g : Grammar} {retag : Retagging} {s : LexerState}

/-- A run by the table goes on after a step, with the same source and the same rules. -/
theorem run_of_splitStep (hstep : g.step = LexerState.tableStep retag)
    (hc : s.cursor < s.source.length) {batch : List Token} {stop : Nat}
    (hsplit : splitStep s.source s.cursor s.rules = .ok (batch, stop)) :
    ∃ s' : LexerState, g.run s = g.run s' ∧ s'.source = s.source ∧ s'.rules = s.rules ∧
      s'.cursor = stop := by
  obtain ⟨hlt, _⟩ := splitStep_advances hc hsplit
  have hmade := step_of_splitStep hstep hsplit
  exact ⟨_, run_of_forward hc hmade (Int.ofNat_lt.mpr hlt), rfl, rfl, rfl⟩

/-- **A run by the table of rules ends with tokens if the recursion does, and with the error of the
failure if the splitting fails**, whatever tags are added. -/
theorem run_spec (hstep : g.step = LexerState.tableStep retag) (s : LexerState) :
    (∃ ts raw, g.run s = .ok ts ∧ splitRec s.rules (s.source.drop s.cursor) = .ok raw) ∨
    ∃ f, FailsAt s.rules s.source s.cursor f ∧ g.run s = .error f.error := by
  induction hn : s.source.length - s.cursor using Nat.strongRecOn generalizing s with
  | ind left ih =>
    by_cases hc : s.cursor < s.source.length
    · cases hsplit : splitStep s.source s.cursor s.rules with
      | error e =>
        obtain ⟨f, hf, rfl⟩ := splitStep_fails hc hsplit
        exact Or.inr ⟨f, hf, run_of_splitStep_error hstep hc hsplit⟩
      | ok step =>
        obtain ⟨batch, stop⟩ := step
        obtain ⟨hit, skipped, hfirst, hlt, hbefore, _, hstop⟩ := splitStep_spec hc hsplit
        obtain ⟨hadvance, _⟩ := splitStep_advances hc hsplit
        obtain ⟨s', hrun, hsource, hrules, hcursor⟩ := run_of_splitStep hstep hc hsplit
        have hrest := ih (s'.source.length - s'.cursor) (by rw [hsource, hcursor]; omega) s' rfl
        rw [hsource, hrules, hcursor, hstop, ← hrun] at hrest
        rcases hrest with ⟨ts, raw, hok, hraw⟩ | ⟨f, hf, herror⟩
        · have hjoin : splitRec s.rules (s.source.drop s.cursor) =
              .ok (skipped ++ hit.token (s.source.drop s.cursor) :: raw) := by
            rw [splitRec_of_lt hfirst hlt, hbefore, List.drop_drop, Nat.add_comm s.cursor]
            exact Except.map_eq_ok.mpr ⟨raw, hraw, rfl⟩
          exact Or.inl ⟨ts, _, hok, hjoin⟩
        · exact Or.inr ⟨f, .rest hfirst hlt hbefore hf, herror⟩
    · have hend : s.source.length ≤ s.cursor := Nat.le_of_not_lt hc
      refine Or.inl ⟨s.tokens, [], ?_, ?_⟩
      · rw [Grammar.run, if_neg hc]
      · rw [List.drop_eq_nil_of_le hend, splitRec_nil]

/-- **A run fails exactly where the splitting fails.** -/
theorem run_eq_error_iff (hstep : g.step = LexerState.tableStep retag) {e : GrammarError} :
    g.run s = .error e ↔ ∃ f, FailsAt s.rules s.source s.cursor f ∧ e = f.error := by
  constructor
  · intro h
    rcases run_spec hstep s with ⟨ts, _, hok, _⟩ | ⟨f, hf, herror⟩
    · exact absurd (h.symm.trans hok) (by simp)
    · exact ⟨f, hf, Except.error.inj (h.symm.trans herror)⟩
  · rintro ⟨f, hf, rfl⟩
    rcases run_spec hstep s with ⟨_, raw, _, hraw⟩ | ⟨f', hf', herror⟩
    · exact absurd (hf.splitRec_eq.symm.trans hraw) (by simp)
    · rw [hf.unique hf']
      exact herror

end Run

/-! ## Reports -/

/-- **The position of a failure in the source** is the one reported, moved by the text before the part
that was searched. -/
theorem Failure.Locates.positionAt_place {f : Failure} {source : List Char} (h : f.Locates source)
    (hoffset : f.offset ≤ f.part.length) : positionAt source f.place =
      ⟨(positionAt f.part f.offset).line + (source.take f.base).count '\n',
        (positionAt f.part f.offset).column +
          if '\n' ∈ f.part.take f.offset then 0 else (lastLine (source.take f.base)).length,
        f.place⟩ := by
  have hwithin := h.within
  have hbase : (source.take f.base).length = f.base := by
    rw [List.length_take]
    omega
  -- only the text up to the place matters, and there the part is the source from its base on
  have htake : (source.drop f.base).take f.offset = f.part.take f.offset := by
    rw [h.part, List.take_take, Nat.min_eq_left hoffset]
  have hle : f.offset ≤ (source.drop f.base).length := by
    rw [List.length_drop]
    omega
  have hpart : positionAt (source.drop f.base) f.offset = positionAt f.part f.offset := by
    rw [positionAt_of_le hle, positionAt_of_le hoffset, htake]
  have hmoved := positionAt_append hle (source.take f.base)
  rw [List.take_append_drop, hbase, htake, hpart] at hmoved
  exact hmoved

/-- The report shows the source, with the place in it, exactly if no text was skipped on the way to the
search that failed. -/
theorem Failure.Locates.reports_iff {f : Failure} {source : List Char} (h : f.Locates source) :
    f.error.diagnostic.source = some source ∧ f.error.diagnostic.offset = some (f.place : Int) ↔
      f.depth = 0 := by
  constructor
  · rintro ⟨hsource, _⟩
    have hpart : f.part = source := Option.some.inj hsource
    refine Decidable.byContradiction fun hdepth => ?_
    have hlt := h.nested hdepth
    rw [hpart] at hlt
    exact Nat.lt_irrefl _ hlt
  · intro hdepth
    obtain ⟨hbase, hpart⟩ := h.top hdepth
    refine ⟨congrArg some hpart, congrArg some ?_⟩
    show (f.offset : Int) = ((f.base + f.offset : Nat) : Int)
    rw [hbase, Nat.zero_add]

/-- **Where errors point.**  A grammar that steps by a table fails only at a rule of the table that
selects an empty span, and at one place of the source.  The error shows the source and that place in it
exactly if the search that failed was one in the source itself.  A search in skipped text is reported
as if that text were the source, and its position lacks the text before. -/
theorem tokenize_error {g : Grammar} {retag : Retagging} (hstep : g.step = LexerState.tableStep retag)
    {source : List Char} {s : LexerState} (hsetUp : g.setUp { source } = .ok s)
    (hsource : s.source = source) {combined : Bool} {e : GrammarError}
    (h : tokenize g source combined = .error e) :
    ∃ f : Failure, e = f.error ∧ FailsAt s.rules source s.cursor f ∧
      (∀ f', FailsAt s.rules source s.cursor f' → f' = f) ∧ f.rule ∈ s.rules ∧
      (∃ start n, f.rule.select (f.part.drop start) = some ⟨n, n⟩ ∧ f.offset = n + start) ∧
      f.part = (source.drop f.base).take f.part.length ∧ f.place ≤ source.length ∧
      (e.diagnostic.source = some source ∧ e.diagnostic.offset = some (f.place : Int) ↔
        f.depth = 0) ∧
      positionAt source f.place =
        ⟨(positionAt f.part f.offset).line + (source.take f.base).count '\n',
          (positionAt f.part f.offset).column +
            if '\n' ∈ f.part.take f.offset then 0 else (lastLine (source.take f.base)).length,
          f.place⟩ := by
  rw [tokenize, Except.map_eq_error, rawTokens, hsetUp] at h
  obtain ⟨f, hf, rfl⟩ := (run_eq_error_iff hstep).mp h
  rw [hsource] at hf
  have hlocates := hf.locates
  obtain ⟨hrule, start, n, hselect, hoffset, hle⟩ := hf.selects
  have hplace : f.place ≤ source.length :=
    Nat.le_trans (Nat.add_le_add_left hle f.base) hlocates.within
  exact ⟨f, rfl, hf, fun f' hf' => hf'.unique hf, hrule, ⟨start, n, hselect, hoffset⟩, hlocates.part,
    hplace, hlocates.reports_iff, hlocates.positionAt_place hle⟩

/-- A rule that selects the letter `b`. -/
def Rule.letter : Rule where
  tag := "b"
  text := "b"
  pattern := .char 'b'
  reads := Pattern.ofText_of_isDenotedBy (by decide +kernel)
  nonempty := by rfl

/-- A rule that selects the empty span before an exclamation mark. -/
def Rule.lookahead : Rule where
  tag := "bang"
  text := "(?=!)"
  pattern := .ahead true (.char '!')
  reads := Pattern.ofText_of_isDenotedBy (by decide +kernel)
  nonempty := by rfl

/-- The grammar of these two rules. -/
def Grammar.lookahead : Grammar :=
  .ofTable "lookahead" (fun s => .ok { s with rules := [.letter, .lookahead] }) fun _ batch => (batch, [])

theorem Grammar.lookahead_step :
    Grammar.lookahead.step = LexerState.tableStep fun _ batch => (batch, []) := rfl

/-- Its runs fail where the splitting by the two rules fails. -/
theorem tokenize_lookahead {source : List Char} {f : Failure}
    (h : FailsAt [.letter, .lookahead] source 0 f) :
    tokenize .lookahead source true = .error f.error :=
  Except.map_eq_error.mpr ((run_eq_error_iff Grammar.lookahead_step).mpr ⟨f, h, rfl⟩)

/-- After a letter the rule fails on the second line of the source. -/
theorem tokenize_error_lookahead : ∃ f : Failure,
    tokenize .lookahead ['b', '\n', '!'] true = .error f.error ∧ f.place = 2 ∧
    f.error.diagnostic.source = some ['b', '\n', '!'] ∧ f.error.diagnostic.offset = some 2 := by
  have hletter : firstSelection (Rule.complete [.letter, .lookahead]) ['b', '\n', '!'] =
    some ⟨.letter, ⟨0, 1⟩⟩ := rfl
  have hbang : firstSelection (Rule.complete [.letter, .lookahead]) ['\n', '!'] =
    some ⟨.lookahead, ⟨1, 1⟩⟩ := rfl
  have hlast : FailsAt [.letter, .lookahead] ['b', '\n', '!'] 1
      ⟨.lookahead, 0, 0, ['b', '\n', '!'], 2⟩ :=
    @FailsAt.here _ _ 1 ⟨.lookahead, ⟨1, 1⟩⟩ hbang (Nat.le_refl 1)
  have hfails : FailsAt [.letter, .lookahead] ['b', '\n', '!'] 0
      ⟨.lookahead, 0, 0, ['b', '\n', '!'], 2⟩ :=
    .rest hletter Nat.zero_lt_one (splitRec_nil _) hlast
  have herror := tokenize_lookahead hfails
  obtain ⟨f, hf, _, hunique, _, _, _, _, hreports, _⟩ :=
    tokenize_error Grammar.lookahead_step rfl rfl herror
  obtain rfl := hunique _ hfails
  obtain ⟨hsource, hoffset⟩ := hreports.mpr rfl
  exact ⟨_, herror, rfl, hsource, hoffset⟩

/-- Between two letters the rule fails in skipped text, and the error shows that text. -/
theorem tokenize_error_between : ∃ f : Failure,
    FailsAt [.letter, .lookahead] ['b', '!', 'b'] 0 f ∧ f.place = 1 ∧
    tokenize .lookahead ['b', '!', 'b'] true = .error f.error ∧
    ¬ (f.error.diagnostic.source = some ['b', '!', 'b'] ∧ f.error.diagnostic.offset = some 1) ∧
    f.error.diagnostic.source = some ['!'] ∧ f.error.diagnostic.offset = some 0 := by
  have hfirst : firstSelection (Rule.complete [.letter, .lookahead]) ['b', '!', 'b'] =
    some ⟨.letter, ⟨0, 1⟩⟩ := rfl
  have hsecond : firstSelection (Rule.complete [.letter, .lookahead]) ['!', 'b'] =
    some ⟨.letter, ⟨1, 2⟩⟩ := rfl
  have hbang : firstSelection (Rule.complete [.letter, .lookahead]) ['!'] =
    some ⟨.lookahead, ⟨0, 0⟩⟩ := rfl
  have hskipped : FailsAt [.letter, .lookahead] ['!'] 0 ⟨.lookahead, 0, 0, ['!'], 0⟩ :=
    @FailsAt.here _ _ 0 ⟨.lookahead, ⟨0, 0⟩⟩ hbang (Nat.le_refl 0)
  have hlast : FailsAt [.letter, .lookahead] ['b', '!', 'b'] 1 ⟨.lookahead, 1, 1, ['!'], 0⟩ :=
    @FailsAt.skipped _ _ 1 _ ⟨.lookahead, 0, 0, ['!'], 0⟩ hsecond (Nat.lt_succ_self 1) hskipped
  have hfails : FailsAt [.letter, .lookahead] ['b', '!', 'b'] 0 ⟨.lookahead, 1, 1, ['!'], 0⟩ :=
    .rest hfirst Nat.zero_lt_one (splitRec_nil _) hlast
  have hnested := mt hfails.locates.reports_iff.mp (by decide)
  exact ⟨_, hfails, rfl, tokenize_lookahead hfails, hnested, rfl, rfl⟩

end Highlight
