import Highlight.Proofs.Split.Coverage
import Highlight.Proofs.Split.Failure

/-!
# The rounds of splitting a skipped text

Whatever the rules are, a round of work does one of three things (`Walk.Round`): it emits a token, drops a
segment that is used up, or replaces a segment by the pieces that its first selection makes of it.  None of
them changes the text of the tokens done and the pieces pending (`Walk.Round.text_eq`), and each takes at
least one from the bound on the rounds to come (`Walk.Round.rounds_lt`).

The work on a text therefore ends within the rounds that it is given, for lack of pieces or at a round that
fails (`Walk.run_ends`).  It never ends for lack of rounds.
-/

namespace Highlight

/-! ## What is pending -/

/-- The text of a piece of work that is still to be emitted. -/
def Pending.chars : Pending → List Char
  | .segment text cursor => text.drop cursor
  | .token t => t.content

/-- The number of characters of a piece of work that are still to be split. -/
def Pending.unsplit : Pending → Nat
  | .segment text cursor => text.length - cursor
  | .token _ => 0

namespace Walk

/-- The text of the pieces pending, the next one first. -/
def left (w : Walk) : List Char := w.pending.flatMap Pending.chars

/-- The number of characters of the pieces pending that are still to be split. -/
def unsplit (w : Walk) : Nat := (w.pending.map Pending.unsplit).foldr (· + ·) 0

/-- The text of the tokens done and of the pieces pending. -/
def text (w : Walk) : List Char := contents w.done.reverse ++ w.left

theorem left_cons (p : Pending) (ps : List Pending) (done : List Token) :
    left ⟨p :: ps, done⟩ = p.chars ++ left ⟨ps, done⟩ :=
  List.flatMap_cons

theorem unsplit_cons (p : Pending) (ps : List Pending) (done : List Token) :
    unsplit ⟨p :: ps, done⟩ = p.unsplit + unsplit ⟨ps, done⟩ := rfl

theorem text_start (text : List Char) : (start text).text = text := by
  simp [start, Walk.text, left, Pending.chars, contents]

theorem rounds_start (text : List Char) : (start text).rounds = 3 * text.length + 1 := rfl

theorem rounds_pos {w : Walk} (h : w.pending ≠ []) : 0 < w.rounds := by
  obtain ⟨pending, done⟩ := w
  obtain ⟨p, ps, rfl⟩ := List.exists_cons_of_ne_nil h
  rw [rounds_cons]
  exact Nat.add_pos_left p.rounds_pos _

/-! ## A round -/

/-- What a round of work does. -/
inductive Round (rules : List Rule) : Walk → Walk → Prop
  | emit (t : Token) (ps : List Pending) (done : List Token) :
      Round rules ⟨.token t :: ps, done⟩ ⟨ps, t :: done⟩
  | drop {text : List Char} {cursor : Nat} (used : text.length ≤ cursor) (ps : List Pending)
      (done : List Token) : Round rules ⟨.segment text cursor :: ps, done⟩ ⟨ps, done⟩
  | split {text : List Char} {cursor : Nat} {hit : Hit} (more : cursor < text.length)
      (first : firstSelection rules (text.drop cursor) = some hit)
      (lt : hit.span.start < hit.span.stop) (ps : List Pending) (done : List Token) :
      Round rules ⟨.segment text cursor :: ps, done⟩ ⟨expand text cursor hit ps, done⟩

section Round

variable {rules : List Rule} {w w' : Walk}

/-- **With a piece pending, a round is one of the three or fails.** -/
theorem round_or_fails (rules : List Rule) (h : w.pending ≠ []) :
    (∃ w', w.step rules = .ok w' ∧ Round rules w w') ∨ ∃ e, w.step rules = .error e := by
  obtain ⟨pending, done⟩ := w
  obtain ⟨p, ps, rfl⟩ := List.exists_cons_of_ne_nil h
  cases p with
  | token t => exact Or.inl ⟨_, rfl, .emit t ps done⟩
  | segment text cursor =>
    by_cases hc : cursor < text.length
    · cases hfirst : firstSelection rules (text.drop cursor) with
      | none =>
        refine Or.inr ⟨.noMatch cursor text, ?_⟩
        simp only [step, if_neg (Nat.not_le.mpr hc), firstHit_eq, hfirst]
      | some hit =>
        by_cases hlt : hit.span.start < hit.span.stop
        · exact Or.inl ⟨_, step_of_lt hc hfirst hlt ps done, .split hc hfirst hlt ps done⟩
        · exact Or.inr ⟨_, step_of_empty hc hfirst (Nat.le_of_not_lt hlt) ps done⟩
    · have hused : text.length ≤ cursor := Nat.le_of_not_lt hc
      exact Or.inl ⟨_, step_of_le hused ps done, .drop hused ps done⟩

theorem Round.of_step (h : w.step rules = .ok w') (hp : w.pending ≠ []) : Round rules w w' := by
  rcases round_or_fails rules hp with ⟨u, hstep, hround⟩ | ⟨e, hstep⟩
  · obtain rfl := Except.ok.inj (hstep.symm.trans h)
    exact hround
  · exact absurd (hstep.symm.trans h) (by simp)

/-- The pieces that replace a segment have its text. -/
theorem left_expand {text : List Char} {cursor : Nat} {hit : Hit} (lt : hit.span.start < hit.span.stop)
    (ps : List Pending) (done : List Token) :
    left ⟨expand text cursor hit ps, done⟩ = left ⟨.segment text cursor :: ps, done⟩ := by
  have hsplit : (text.drop cursor).take hit.span.start ++
      ((hit.token (text.drop cursor)).content ++ text.drop (hit.span.stop + cursor)) =
      text.drop cursor := by
    rw [← List.append_assoc, Hit.take_append_token lt, Nat.add_comm, ← List.drop_drop,
      List.take_append_drop]
  rw [left_cons, Pending.chars, ← hsplit, expand]
  split
  · simp [left, Pending.chars]
  · next hzero => simp [left, Pending.chars, Nat.eq_zero_of_not_pos hzero]

/-- **A round keeps the text of the tokens done and the pieces pending.** -/
theorem Round.text_eq (h : Round rules w w') : w'.text = w.text := by
  cases h with
  | emit t ps done =>
    rw [text, text, left_cons]
    simp [contents, Pending.chars, left]
  | drop used ps done =>
    rw [text, text, left_cons, Pending.chars, List.drop_eq_nil_of_le used]
    rfl
  | split more first lt ps done =>
    rw [text, text, left_expand lt]

/-- **A round takes from the bound on the rounds to come.** -/
theorem Round.rounds_lt (h : Round rules w w') : w'.rounds < w.rounds := by
  cases h with
  | emit t ps done =>
    show rounds ⟨ps, done⟩ < rounds ⟨.token t :: ps, done⟩
    rw [rounds_cons]
    exact Nat.lt_add_of_pos_left (Pending.token t).rounds_pos
  | drop used ps done =>
    rw [rounds_cons]
    exact Nat.lt_add_of_pos_left (Pending.rounds_pos _)
  | split more first lt ps done => exact rounds_expand_lt first lt ps done

/-- A segment that is not used up loses the characters of a token when it is replaced. -/
theorem Round.unsplit_lt (h : Round rules w w') {text : List Char} {cursor : Nat} {ps : List Pending}
    (hsegment : w.pending = .segment text cursor :: ps) (hc : cursor < text.length) :
    w'.unsplit < w.unsplit := by
  cases h with
  | emit t ps done => cases hsegment
  | drop used ps done =>
    cases hsegment
    exact absurd hc (Nat.not_lt.mpr used)
  | split more first lt ps done =>
    cases hsegment
    have hstop := firstSelection_stop_le first
    rw [List.length_drop] at hstop
    rw [expand]
    split
    · simp only [List.cons_append, List.nil_append, unsplit_cons, Pending.unsplit, List.length_take,
        List.length_drop]
      omega
    · simp only [List.nil_append, unsplit_cons, Pending.unsplit]
      omega

end Round

/-! ## Round after round -/

/-- Rounds of work, each with a piece pending. -/
inductive Rounds (rules : List Rule) : Walk → Nat → Walk → Prop
  | none (w : Walk) : Rounds rules w 0 w
  | more {w v u : Walk} {n : Nat} (pending : w.pending ≠ []) (step : w.step rules = .ok v)
      (rest : Rounds rules v n u) : Rounds rules w (n + 1) u

section Rounds

variable {rules : List Rule} {w u : Walk} {n : Nat}

theorem Rounds.text_eq (h : Rounds rules w n u) : u.text = w.text := by
  induction h with
  | none w => rfl
  | more pending step _ ih => exact ih.trans (Round.of_step step pending).text_eq

/-- All rounds are within the bound. -/
theorem Rounds.add_rounds_le (h : Rounds rules w n u) : n + u.rounds ≤ w.rounds := by
  induction h with
  | none w => exact Nat.le_of_eq (Nat.zero_add _)
  | more pending step _ ih =>
    have hlt := (Round.of_step step pending).rounds_lt
    omega

/-- **Work that is given as many rounds as the bound ends**: with no piece pending, or at a round that
fails. -/
theorem run_ends (rules : List Rule) : ∀ (n : Nat) (w : Walk), w.rounds ≤ n →
    ∃ m u, Rounds rules w m u ∧ ((u.pending = [] ∧ run rules n w = .ok u) ∨
      (u.pending ≠ [] ∧ ∃ e, u.step rules = .error e ∧ run rules n w = .error e))
  | n, ⟨[], done⟩, _ => by
    refine ⟨0, _, .none _, Or.inl ⟨rfl, ?_⟩⟩
    cases n <;> rfl
  | 0, ⟨p :: ps, done⟩, hn => by
    have hpos := rounds_pos (w := ⟨p :: ps, done⟩) (List.cons_ne_nil p ps)
    omega
  | n + 1, ⟨p :: ps, done⟩, hn => by
    have hpending : (⟨p :: ps, done⟩ : Walk).pending ≠ [] := List.cons_ne_nil p ps
    rw [run]
    rcases round_or_fails rules hpending with ⟨v, hstep, hround⟩ | ⟨e, hstep⟩
    · have hlt := hround.rounds_lt
      obtain ⟨m, u, hrounds, hend⟩ := run_ends rules n v (by omega)
      rw [hstep]
      exact ⟨m + 1, u, .more hpending hstep hrounds, hend⟩
    · rw [hstep]
      exact ⟨0, _, .none _, Or.inr ⟨hpending, e, hstep, rfl⟩⟩

end Rounds

end Walk

/-! ## The work on a skipped text -/

/-- What a rule finds lies in the text from the cursor on. -/
theorem Rule.within_of_find {r : Rule} {source : List Char} {cursor : Nat} {span : Span}
    (h : r.find source cursor = some span) :
    cursor ≤ span.start ∧ span.start ≤ span.stop ∧ span.stop ≤ source.length := by
  rw [find_eq] at h
  obtain ⟨s, hselect, rfl⟩ := Option.map_eq_some_iff.mp h
  have hstop := select_stop_le hselect
  have hstart := select_start_le_stop hselect
  rw [List.length_drop] at hstop
  by_cases hc : cursor ≤ source.length
  · show cursor ≤ s.start + cursor ∧ s.start + cursor ≤ s.stop + cursor ∧ s.stop + cursor ≤ _
    omega
  · rw [List.drop_eq_nil_of_le (Nat.le_of_not_le hc), select_nil] at hselect
    exact absurd hselect (by simp)

/-- **The work on a skipped text ends within three rounds for each character and one more**, whatever the
rules are.

* What a rule finds lies in the text from the cursor on.
* After any number of rounds, the tokens done and the pieces pending make up the text, in their order; a
  further round, even one that fails, is within the bound; and each time a segment is replaced, fewer
  characters are left to be split.
* The work ends with no piece pending, and gives the tokens done; or at a round that fails, and gives its
  error. -/
theorem splitSkipped_rounds (rules : List Rule) (text : List Char) :
    (∀ r ∈ rules, ∀ source cursor span, r.find source cursor = some span →
      cursor ≤ span.start ∧ span.start ≤ span.stop ∧ span.stop ≤ source.length) ∧
    (∀ n w, Walk.Rounds rules (.start text) n w →
      contents w.done.reverse ++ w.left = text ∧
      n ≤ 3 * text.length + 1 ∧ (w.pending ≠ [] → n + 1 ≤ 3 * text.length + 1) ∧
      ∀ segment cursor ps w', w.pending = .segment segment cursor :: ps → cursor < segment.length →
        w.step rules = .ok w' → w'.unsplit < w.unsplit) ∧
    ∃ n w, Walk.Rounds rules (.start text) n w ∧
      ((w.pending = [] ∧ splitSkipped rules text = .ok w.done.reverse) ∨
        (w.pending ≠ [] ∧ ∃ e, w.step rules = .error e ∧ splitSkipped rules text = .error e)) := by
  refine ⟨fun r _ source cursor span h => Rule.within_of_find h, fun n w h => ?_, ?_⟩
  · have hbound := h.add_rounds_le
    rw [Walk.rounds_start] at hbound
    refine ⟨h.text_eq.trans (Walk.text_start text), by omega, fun hp => ?_, ?_⟩
    · have hpos := Walk.rounds_pos hp
      omega
    · intro segment cursor ps w' hsegment hc hstep
      have hp : w.pending ≠ [] := hsegment ▸ List.cons_ne_nil _ _
      exact (Walk.Round.of_step hstep hp).unsplit_lt hsegment hc
  · obtain ⟨n, w, hrounds, hend⟩ :=
      Walk.run_ends rules (3 * text.length + 1) (.start text) (Nat.le_of_eq (Walk.rounds_start text))
    refine ⟨n, w, hrounds, ?_⟩
    rw [splitSkipped]
    rcases hend with ⟨hp, hrun⟩ | ⟨hp, e, hstep, hrun⟩
    · exact Or.inl ⟨hp, by rw [hrun]; rfl⟩
    · exact Or.inr ⟨hp, e, hstep, by rw [hrun]; rfl⟩

/-- A letter after another character: seven rounds are enough, and six are taken.  Without the rules that
end every table, the second round fails at the skipped character. -/
theorem splitSkipped_rounds_letter :
    (∃ w, Walk.Rounds (Rule.complete [.letter]) (.start ['!', 'b']) 6 w ∧ w.pending = [] ∧
      contents w.done.reverse ++ w.left = ['!', 'b'] ∧ 6 ≤ 3 * 2 + 1) ∧
    ∃ w, Walk.Rounds [.letter] (.start ['!', 'b']) 1 w ∧ w.pending ≠ [] ∧
      contents w.done.reverse ++ w.left = ['!', 'b'] ∧ 1 + 1 ≤ 3 * 2 + 1 ∧
      w.unsplit < (Walk.start ['!', 'b']).unsplit := by
  obtain ⟨-, hcomplete, -⟩ := splitSkipped_rounds (Rule.complete [.letter]) ['!', 'b']
  obtain ⟨-, hletter, -⟩ := splitSkipped_rounds [.letter] ['!', 'b']
  let skipped : Pending := .segment ['!'] 0
  let rest : List Pending := [.token (.single ['b'] "b"), .segment ['!', 'b'] 2]
  have hstart : ∀ rules, (firstSelection rules ['!', 'b'] = some ⟨.letter, ⟨1, 2⟩⟩) →
      (Walk.start ['!', 'b']).step rules = .ok ⟨skipped :: rest, []⟩ :=
    fun rules hfirst =>
      @Walk.step_of_lt rules ['!', 'b'] 0 ⟨.letter, ⟨1, 2⟩⟩ (by decide) hfirst (by decide) [] []
  have hother : Walk.step (Rule.complete [.letter]) ⟨skipped :: rest, []⟩ =
      .ok ⟨.token (.single ['!'] "ind") :: .segment ['!'] 1 :: rest, []⟩ := rfl
  have hsix : Walk.Rounds (Rule.complete [.letter]) (.start ['!', 'b']) 6
      ⟨[], [.single ['b'] "b", .single ['!'] "ind"]⟩ := by
    refine .more (List.cons_ne_nil _ _) (hstart _ rfl) (.more (List.cons_ne_nil _ _) hother ?_)
    iterate 4 refine .more (List.cons_ne_nil _ _) rfl ?_
    exact .none _
  have hone : Walk.Rounds [.letter] (.start ['!', 'b']) 1 ⟨skipped :: rest, []⟩ :=
    .more (List.cons_ne_nil _ _) (hstart _ rfl) (.none _)
  obtain ⟨hsixText, hsixLe, -, -⟩ := hcomplete 6 _ hsix
  obtain ⟨honeText, -, honeLe, -⟩ := hletter 1 _ hone
  obtain ⟨-, -, -, hfewer⟩ := hletter 0 _ (.none _)
  exact ⟨⟨_, hsix, rfl, hsixText, hsixLe⟩, _, hone, List.cons_ne_nil _ _, honeText,
    honeLe (List.cons_ne_nil _ _), hfewer _ _ _ _ rfl (by decide) (hstart _ rfl)⟩

end Highlight
