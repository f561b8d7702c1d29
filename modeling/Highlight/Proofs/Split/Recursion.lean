import Highlight.Proofs.Result
import Highlight.Proofs.Selection
import Highlight.Split.Basic

/-!
# Splitting by recursion

A text is split at the selection of the first rule that selects anything: the text before it and the
text after it are split by the same rules, and the token of the selection stands between them
(`splitRec`).  Where the selection is empty, splitting ends at that rule; of several such places the
first counts, in the order text, text before, text after.

The program splits in two other ways.  `splitSkipped` works off a stack of pending pieces.  Steps
from a cursor on (`splitSteps`) split the text before each selection with that stack and go on after
it.  Both end as the recursion does: with the same tokens, or at the same rule (`Alike`).

* `Walk.run_alike`: the pieces pending denote what the recursion makes of them (`Walk.outcome`).  A
  round of work keeps it, and takes from a bound on the rounds to come (`Walk.rounds`).
* `splitSteps_alike`: one step is the recursion up to the end of its selection.
-/

namespace Highlight

/-! ## The first rule that selects anything -/

/-- The first rule of a table that selects anything in a text, with what it selects. -/
def firstSelection (rules : List Rule) (text : List Char) : Option Hit :=
  rules.findSome? fun r => (r.select text).map (⟨r, ·⟩)

/-- A hit in the text that starts `n` characters before. -/
def Hit.shift (h : Hit) (n : Nat) : Hit := ⟨h.rule, ⟨h.span.start + n, h.span.stop + n⟩⟩

/-- The text from a place on, up to `n` characters further. -/
theorem Span.of_add_self (cursor n : Nat) (text : List Char) :
    Span.of ⟨cursor, n + cursor⟩ text = (text.drop cursor).take n := by
  rw [Span.of, Nat.add_sub_cancel]

theorem Hit.token_shift (h : Hit) (source : List Char) (n : Nat) :
    (h.shift n).token source = h.token (source.drop n) :=
  congrArg (Token.single · h.rule.tag) (h.span.of_shift source n)

theorem firstHit_eq (source : List Char) (cursor : Nat) : ∀ rules : List Rule,
    firstHit source cursor rules =
      match firstSelection rules (source.drop cursor) with
      | none => .error (.noMatch cursor source)
      | some h =>
        if h.span.stop ≤ h.span.start then
          .error (.emptyMatch h.rule.tag h.rule.text (h.span.start + cursor) source)
        else .ok (h.shift cursor)
  | [] => rfl
  | r :: rules => by
    rw [firstHit, firstSelection, List.findSome?_cons, Rule.find_eq]
    cases r.select (source.drop cursor) with
    | none => exact firstHit_eq source cursor rules
    | some span =>
      have hle : span.stop + cursor ≤ span.start + cursor ↔ span.stop ≤ span.start := by omega
      simp only [Option.map_some, hle]
      rfl

theorem firstSelection_spec {rules : List Rule} {text : List Char} {h : Hit}
    (hfirst : firstSelection rules text = some h) :
    h.rule ∈ rules ∧ h.rule.select text = some h.span := by
  obtain ⟨r, hr, hmap⟩ := List.exists_of_findSome?_eq_some hfirst
  obtain ⟨span, hspan, rfl⟩ := Option.map_eq_some_iff.mp hmap
  exact ⟨hr, hspan⟩

theorem firstSelection_stop_le {rules : List Rule} {text : List Char} {h : Hit}
    (hfirst : firstSelection rules text = some h) : h.span.stop ≤ text.length :=
  Rule.select_stop_le (firstSelection_spec hfirst).2

/-- Only in the empty text a complete table has nothing to select. -/
theorem firstSelection_complete_eq_none {rules : List Rule} {text : List Char} :
    firstSelection (Rule.complete rules) text = none ↔ text = [] := by
  constructor
  · intro h
    have hlast := List.findSome?_eq_none_iff.mp h Rule.anyChar (by simp [Rule.complete])
    cases text with
    | nil => rfl
    | cons c rest =>
      rw [Rule.select_anyChar] at hlast
      exact absurd hlast (by simp)
  · rintro rfl
    refine List.findSome?_eq_none_iff.mpr fun r _ => ?_
    rw [Rule.select_nil, Option.map_none]

/-- Before the end of a text a complete table selects something. -/
theorem exists_firstSelection {text : List Char} {cursor : Nat} (h : cursor < text.length)
    (rules : List Rule) : ∃ hit, firstSelection (Rule.complete rules) (text.drop cursor) = some hit := by
  cases hfirst : firstSelection (Rule.complete rules) (text.drop cursor) with
  | none =>
    rw [firstSelection_complete_eq_none, List.drop_eq_nil_iff] at hfirst
    exact absurd h (Nat.not_lt.mpr hfirst)
  | some hit => exact ⟨hit, rfl⟩

theorem not_neverEmpty_of_selection {rules : List Rule} {text : List Char} {h : Hit}
    (hfirst : firstSelection rules text = some h) (hempty : h.span.stop ≤ h.span.start) :
    ¬ h.rule.NeverEmpty :=
  fun hne => absurd (hne text h.span (firstSelection_spec hfirst).2) (Nat.not_lt.mpr hempty)

/-- The two rules at the end of a complete table select no empty span. -/
theorem mem_of_empty_selection {rules : List Rule} {text : List Char} {h : Hit}
    (hfirst : firstSelection (Rule.complete rules) text = some h) (hempty : h.span.stop ≤ h.span.start) :
    h.rule ∈ rules := by
  have hmem := (firstSelection_spec hfirst).1
  have hnot : ∀ {r : Rule}, r.NeverEmpty → h.rule ≠ r := by
    rintro r hr rfl
    exact not_neverEmpty_of_selection hfirst hempty hr
  rw [Rule.complete, List.mem_append] at hmem
  rcases hmem with hmem | hmem
  · exact hmem
  · rcases List.mem_cons.mp hmem with hmem | hmem
    · exact absurd hmem (hnot Rule.blanks_neverEmpty)
    · exact absurd (List.mem_singleton.mp hmem) (hnot Rule.anyChar_neverEmpty)

/-! ## The recursion -/

/-- The tokens of a text, split by the rules of a table; or the rule whose selection is the first to
be empty. -/
def splitRec (rules : List Rule) (text : List Char) : Except Rule (List Token) :=
  match _h : firstSelection (Rule.complete rules) text with
  | none => .ok []
  | some hit =>
    if hit.span.stop ≤ hit.span.start then .error hit.rule
    else
      (splitRec rules (text.take hit.span.start)).bind fun before =>
        (splitRec rules (text.drop hit.span.stop)).map fun after =>
          before ++ hit.token text :: after
termination_by text.length
decreasing_by
  all_goals
    have := firstSelection_stop_le _h
    simp only [List.length_take, List.length_drop]
    omega

theorem splitRec_nil (rules : List Rule) : splitRec rules [] = .ok [] := by
  rw [splitRec]
  split
  · rfl
  · next hit h =>
    rw [firstSelection_complete_eq_none.mpr rfl] at h
    exact absurd h (by simp)

theorem splitRec_of_empty {rules : List Rule} {text : List Char} {hit : Hit}
    (h : firstSelection (Rule.complete rules) text = some hit) (hempty : hit.span.stop ≤ hit.span.start) :
    splitRec rules text = .error hit.rule := by
  rw [splitRec]
  split
  · next hnone => rw [hnone] at h; exact absurd h (by simp)
  · next hit' h' =>
    obtain rfl := Option.some.inj (h'.symm.trans h)
    rw [if_pos hempty]

theorem splitRec_of_lt {rules : List Rule} {text : List Char} {hit : Hit}
    (h : firstSelection (Rule.complete rules) text = some hit) (hlt : hit.span.start < hit.span.stop) :
    splitRec rules text = (splitRec rules (text.take hit.span.start)).bind fun before =>
      (splitRec rules (text.drop hit.span.stop)).map fun after =>
        before ++ hit.token text :: after := by
  rw [splitRec]
  split
  · next hnone => rw [hnone] at h; exact absurd h (by simp)
  · next hit' h' =>
    obtain rfl := Option.some.inj (h'.symm.trans h)
    rw [if_neg (Nat.not_le.mpr hlt)]

/-- **Induction along the recursion**: over the text before and the text after each selection. -/
theorem split_induction (rules : List Rule) {motive : List Char → Prop} (nil : motive [])
    (empty : ∀ (text : List Char) (hit : Hit), firstSelection (Rule.complete rules) text = some hit →
      hit.span.stop ≤ hit.span.start → motive text)
    (node : ∀ (text : List Char) (hit : Hit), firstSelection (Rule.complete rules) text = some hit →
      hit.span.start < hit.span.stop → motive (text.take hit.span.start) →
      motive (text.drop hit.span.stop) → motive text) (text : List Char) : motive text := by
  induction hn : text.length using Nat.strongRecOn generalizing text with
  | ind n ih =>
    cases hfirst : firstSelection (Rule.complete rules) text with
    | none =>
      obtain rfl := firstSelection_complete_eq_none.mp hfirst
      exact nil
    | some hit =>
      have hstop := firstSelection_stop_le hfirst
      by_cases hlt : hit.span.start < hit.span.stop
      -- a selection that is not empty leaves both sides shorter than the text
      · refine node text hit hfirst hlt (ih _ ?_ _ rfl) (ih _ ?_ _ rfl)
        · rw [List.length_take]
          omega
        · rw [List.length_drop]
          omega
      · exact empty text hit hfirst (Nat.le_of_not_lt hlt)

/-- A splitting with a selection that is not empty succeeds if the splittings on both sides do. -/
theorem splitRec_ok_of_lt {rules : List Rule} {text : List Char} {hit : Hit} {ts : List Token}
    (hfirst : firstSelection (Rule.complete rules) text = some hit)
    (hlt : hit.span.start < hit.span.stop) (h : splitRec rules text = .ok ts) :
    ∃ before after, splitRec rules (text.take hit.span.start) = .ok before ∧
      splitRec rules (text.drop hit.span.stop) = .ok after ∧
      ts = before ++ hit.token text :: after := by
  rw [splitRec_of_lt hfirst hlt] at h
  obtain ⟨before, hbefore, h⟩ := Except.bind_eq_ok.mp h
  obtain ⟨after, hafter, rfl⟩ := Except.map_eq_ok.mp h
  exact ⟨before, after, hbefore, hafter, rfl⟩

/-- Induction on the tokens of a splitting that succeeds. -/
theorem splitRec_induction {rules : List Rule} {motive : List Char → List Token → Prop}
    (nil : motive [] [])
    (node : ∀ (text : List Char) (hit : Hit) (before after : List Token),
      firstSelection (Rule.complete rules) text = some hit → hit.span.start < hit.span.stop →
      splitRec rules (text.take hit.span.start) = .ok before →
      splitRec rules (text.drop hit.span.stop) = .ok after →
      motive (text.take hit.span.start) before → motive (text.drop hit.span.stop) after →
      motive text (before ++ hit.token text :: after))
    {text : List Char} : ∀ {ts : List Token}, splitRec rules text = .ok ts → motive text ts := by
  induction text using split_induction rules with
  | nil =>
    intro ts h
    rw [splitRec_nil] at h
    obtain rfl := Except.ok.inj h
    exact nil
  | empty text hit hfirst hempty =>
    intro ts h
    rw [splitRec_of_empty hfirst hempty] at h
    exact absurd h (by simp)
  | node text hit hfirst hlt ihbefore ihafter =>
    intro ts h
    obtain ⟨before, after, hbefore, hafter, rfl⟩ := splitRec_ok_of_lt hfirst hlt h
    exact node text hit before after hfirst hlt hbefore hafter (ihbefore hbefore) (ihafter hafter)

/-- A splitting that fails has come to an empty selection of a rule of the table. -/
theorem splitRec_error {rules : List Rule} {text : List Char} {r : Rule} :
    splitRec rules text = .error r → r ∈ rules ∧ ¬ r.NeverEmpty := by
  induction text using split_induction rules with
  | nil =>
    intro h
    rw [splitRec_nil] at h
    exact absurd h (by simp)
  | empty text hit hfirst hempty =>
    intro h
    rw [splitRec_of_empty hfirst hempty] at h
    obtain rfl := Except.error.inj h
    exact ⟨mem_of_empty_selection hfirst hempty, not_neverEmpty_of_selection hfirst hempty⟩
  | node text hit hfirst hlt ihbefore ihafter =>
    intro h
    rw [splitRec_of_lt hfirst hlt] at h
    rcases Except.bind_eq_error.mp h with hbefore | ⟨before, _, hafter⟩
    · exact ihbefore hbefore
    · exact ihafter (Except.map_eq_error.mp hafter)

/-- **Rules that never select an empty span split every text.** -/
theorem exists_splitRec {rules : List Rule} (hrules : ∀ r ∈ rules, r.NeverEmpty) (text : List Char) :
    ∃ ts, splitRec rules text = .ok ts := by
  cases h : splitRec rules text with
  | ok ts => exact ⟨ts, rfl⟩
  | error r => exact absurd (hrules r (splitRec_error h).1) (splitRec_error h).2

/-! ## Outcomes alike -/

/-- Two splittings end alike: with the same result, or the one in the error that the rule selected
an empty span and the other at that rule. -/
inductive Alike {α : Type} : Except GrammarError α → Except Rule α → Prop
  | ok (a : α) : Alike (.ok a) (.ok a)
  | error (rule : Rule) (offset : Nat) (source : List Char) :
      Alike (.error (.emptyMatch rule.tag rule.text offset source)) (.error rule)

namespace Alike

variable {α β : Type} {x : Except GrammarError α} {y : Except Rule α}

theorem bind {f : α → Except GrammarError β} {g : α → Except Rule β} (h : Alike x y)
    (hfg : ∀ a, Alike (f a) (g a)) : Alike (x.bind f) (y.bind g) := by
  cases h with
  | ok a => exact hfg a
  | error rule offset source => exact .error rule offset source

theorem map (f : α → β) (h : Alike x y) : Alike (x.map f) (y.map f) := by
  cases h with
  | ok a => exact .ok (f a)
  | error rule offset source => exact .error rule offset source

theorem ok_iff (h : Alike x y) (a : α) : x = .ok a ↔ y = .ok a := by
  cases h with
  | ok b => exact ⟨fun h => congrArg _ (Except.ok.inj h), fun h => congrArg _ (Except.ok.inj h)⟩
  | error => constructor <;> intro h <;> exact absurd h (by simp)

theorem exists_of_error {e : GrammarError} (h : Alike (.error e) y) :
    ∃ rule offset source, e = .emptyMatch rule.tag rule.text offset source ∧ y = .error rule := by
  cases h with
  | error rule offset source => exact ⟨rule, offset, source, rfl, rfl⟩

end Alike

/-! ## Skipped text -/

/-- What the recursion makes of a piece of work. -/
def Pending.outcome (rules : List Rule) : Pending → Except Rule (List Token)
  | .segment text cursor => splitRec rules (text.drop cursor)
  | .token t => .ok [t]

/-- What the recursion makes of pieces of work, one after the other. -/
def Pending.outcomes (rules : List Rule) : List Pending → Except Rule (List Token)
  | [] => .ok []
  | p :: ps => (p.outcome rules).bind fun ts => (outcomes rules ps).map (ts ++ ·)

/-- A bound on the rounds that a piece of work takes. -/
def Pending.rounds : Pending → Nat
  | .segment text cursor => 3 * (text.length - cursor) + 1
  | .token _ => 1

theorem Pending.rounds_pos (p : Pending) : 0 < p.rounds := by
  cases p <;> simp [rounds]

/-- A segment at its end is nothing to the recursion. -/
theorem Pending.outcomes_segment_of_le {rules : List Rule} {text : List Char} {cursor : Nat}
    (h : text.length ≤ cursor) (ps : List Pending) :
    outcomes rules (.segment text cursor :: ps) = outcomes rules ps := by
  rw [outcomes, outcome, List.drop_eq_nil_of_le h, splitRec_nil]
  cases outcomes rules ps <;> rfl

/-- A segment is to the recursion what it is replaced by. -/
theorem Pending.outcomes_segment_of_lt {rules : List Rule} {text : List Char} {cursor : Nat} {hit : Hit}
    (h : firstSelection (Rule.complete rules) (text.drop cursor) = some hit)
    (hlt : hit.span.start < hit.span.stop) (ps : List Pending) :
    outcomes rules (.segment text cursor :: ps) =
      outcomes rules (.segment ((text.drop cursor).take hit.span.start) 0 ::
        .token (hit.token (text.drop cursor)) :: .segment text (hit.span.stop + cursor) :: ps) := by
  simp only [outcomes, outcome]
  rw [splitRec_of_lt h hlt, List.drop_zero, List.drop_drop, Nat.add_comm cursor]
  cases splitRec rules ((text.drop cursor).take hit.span.start) with
  | error rule => rfl
  | ok before =>
    cases splitRec rules (text.drop (hit.span.stop + cursor)) with
    | error rule => rfl
    | ok after =>
      cases outcomes rules ps with
      | error rule => rfl
      | ok rest => simp [Except.bind, Except.map]

namespace Walk

/-- The tokens done, and what the recursion makes of the pieces pending. -/
def outcome (rules : List Rule) (w : Walk) : Except Rule (List Token) :=
  (Pending.outcomes rules w.pending).map (w.done.reverse ++ ·)

/-- A bound on the rounds to come. -/
def rounds (w : Walk) : Nat := (w.pending.map Pending.rounds).foldr (· + ·) 0

theorem rounds_cons (p : Pending) (ps : List Pending) (done : List Token) :
    rounds ⟨p :: ps, done⟩ = p.rounds + rounds ⟨ps, done⟩ := rfl

/-- What a round of work comes to: it keeps the outcome and leaves fewer rounds to come, or the work
ends at the rule at which the recursion ends. -/
def StepAlike (rules : List Rule) (w : Walk) : Prop :=
  (∃ w', w.step (Rule.complete rules) = .ok w' ∧ w'.outcome rules = w.outcome rules ∧
    w'.rounds < w.rounds) ∨
  ∃ rule offset source,
    w.step (Rule.complete rules) = .error (.emptyMatch rule.tag rule.text offset source) ∧
    w.outcome rules = .error rule

theorem step_token (rules : List Rule) (t : Token) (ps : List Pending) (done : List Token) :
    StepAlike rules ⟨.token t :: ps, done⟩ := by
  refine Or.inl ⟨⟨ps, t :: done⟩, rfl, ?_, ?_⟩
  · simp only [outcome, Pending.outcomes, Pending.outcome]
    cases Pending.outcomes rules ps with
    | error rule => rfl
    | ok rest => simp [Except.bind, Except.map]
  · rw [rounds_cons]
    show rounds ⟨ps, done⟩ < 1 + rounds ⟨ps, done⟩
    omega

section Segment

variable {rules : List Rule} {text : List Char} {cursor : Nat} {hit : Hit}

theorem step_of_le (h : text.length ≤ cursor) (ps : List Pending) (done : List Token) :
    step rules ⟨.segment text cursor :: ps, done⟩ = .ok ⟨ps, done⟩ := by
  simp only [step, if_pos h]

theorem step_of_empty (hc : cursor < text.length)
    (hfirst : firstSelection rules (text.drop cursor) = some hit)
    (hempty : hit.span.stop ≤ hit.span.start) (ps : List Pending) (done : List Token) :
    step rules ⟨.segment text cursor :: ps, done⟩ =
      .error (.emptyMatch hit.rule.tag hit.rule.text (hit.span.start + cursor) text) := by
  simp only [step, if_neg (Nat.not_le.mpr hc), firstHit_eq, hfirst, if_pos hempty]

/-- The pieces that a selection makes of a segment, before others: the text before the selection, if
there is any, the token, and the rest. -/
def expand (text : List Char) (cursor : Nat) (hit : Hit) (ps : List Pending) : List Pending :=
  (if 0 < hit.span.start then [.segment ((text.drop cursor).take hit.span.start) 0] else []) ++
    .token (hit.token (text.drop cursor)) :: .segment text (hit.span.stop + cursor) :: ps

/-- A round on a segment replaces it by what its first selection makes of it. -/
theorem step_of_lt (hc : cursor < text.length)
    (hfirst : firstSelection rules (text.drop cursor) = some hit)
    (hlt : hit.span.start < hit.span.stop) (ps : List Pending) (done : List Token) :
    step rules ⟨.segment text cursor :: ps, done⟩ = .ok ⟨expand text cursor hit ps, done⟩ := by
  have hstart : cursor < hit.span.start + cursor ↔ 0 < hit.span.start := by omega
  simp only [step, if_neg (Nat.not_le.mpr hc), firstHit_eq, hfirst, if_neg (Nat.not_le.mpr hlt),
    Hit.token_shift]
  simp only [Hit.shift, hstart, Span.of_add_self, expand]
  split <;> rfl

/-- A character of the token pays for the three pieces that replace the segment. -/
theorem rounds_expand_lt (hfirst : firstSelection rules (text.drop cursor) = some hit)
    (hlt : hit.span.start < hit.span.stop) (ps : List Pending) (done : List Token) :
    rounds ⟨expand text cursor hit ps, done⟩ < rounds ⟨.segment text cursor :: ps, done⟩ := by
  have hstop : hit.span.stop ≤ text.length - cursor := by
    rw [← List.length_drop]
    exact firstSelection_stop_le hfirst
  rw [expand]
  split
  · simp only [List.cons_append, List.nil_append, rounds_cons, Pending.rounds, List.length_take,
      List.length_drop]
    omega
  · simp only [List.nil_append, rounds_cons, Pending.rounds]
    omega

theorem step_segment_of_empty (hc : cursor < text.length)
    (hfirst : firstSelection (Rule.complete rules) (text.drop cursor) = some hit)
    (hempty : hit.span.stop ≤ hit.span.start) (ps : List Pending) (done : List Token) :
    StepAlike rules ⟨.segment text cursor :: ps, done⟩ := by
  refine Or.inr ⟨hit.rule, hit.span.start + cursor, text, step_of_empty hc hfirst hempty ps done, ?_⟩
  rw [outcome, Pending.outcomes, Pending.outcome, splitRec_of_empty hfirst hempty]
  rfl

theorem step_segment_of_lt (hc : cursor < text.length)
    (hfirst : firstSelection (Rule.complete rules) (text.drop cursor) = some hit)
    (hlt : hit.span.start < hit.span.stop) (ps : List Pending) (done : List Token) :
    StepAlike rules ⟨.segment text cursor :: ps, done⟩ := by
  refine Or.inl ⟨_, step_of_lt hc hfirst hlt ps done, ?_, rounds_expand_lt hfirst hlt ps done⟩
  rw [outcome, outcome, Pending.outcomes_segment_of_lt hfirst hlt ps, expand]
  split
  · rfl
  · next hpos =>
    rw [Pending.outcomes_segment_of_le (by
      rw [List.length_take]
      omega)]
    rfl

end Segment

/-- **Every round of work is alike the recursion.** -/
theorem step_alike (rules : List Rule) (p : Pending) (ps : List Pending) (done : List Token) :
    StepAlike rules ⟨p :: ps, done⟩ := by
  cases p with
  | token t => exact step_token rules t ps done
  | segment text cursor =>
    by_cases hc : cursor < text.length
    · obtain ⟨hit, hfirst⟩ := exists_firstSelection hc rules
      by_cases hlt : hit.span.start < hit.span.stop
      · exact step_segment_of_lt hc hfirst hlt ps done
      · exact step_segment_of_empty hc hfirst (Nat.le_of_not_lt hlt) ps done
    · have hend : text.length ≤ cursor := Nat.le_of_not_lt hc
      refine Or.inl ⟨⟨ps, done⟩, step_of_le hend ps done, ?_, ?_⟩
      · rw [outcome, outcome, Pending.outcomes_segment_of_le hend]
      · rw [rounds_cons, Pending.rounds]
        omega

/-- **The work ends as the recursion does, within the bound on its rounds.** -/
theorem run_alike (rules : List Rule) : ∀ (n : Nat) (w : Walk), w.rounds ≤ n →
    Alike ((run (Rule.complete rules) n w).map (·.done.reverse)) (w.outcome rules)
  | n, ⟨[], done⟩, _ => by
    have hrun : run (Rule.complete rules) n ⟨[], done⟩ = .ok ⟨[], done⟩ := by
      cases n <;> rfl
    rw [hrun, outcome, Pending.outcomes]
    simp only [Except.map, List.append_nil]
    exact .ok done.reverse
  | 0, ⟨p :: ps, done⟩, hn => by
    have hpos := p.rounds_pos
    rw [rounds_cons] at hn
    omega
  | n + 1, ⟨p :: ps, done⟩, hn => by
    rw [run]
    rcases step_alike rules p ps done with
      ⟨w', hstep, houtcome, hrounds⟩ | ⟨rule, offset, source, hstep, houtcome⟩
    · rw [hstep, ← houtcome]
      exact run_alike rules n w' (by omega)
    · rw [hstep, houtcome]
      exact .error rule offset source

end Walk

/-- **Skipped text is split as by the recursion.** -/
theorem splitSkipped_alike (rules : List Rule) (text : List Char) :
    Alike (splitSkipped (Rule.complete rules) text) (splitRec rules text) := by
  have houtcome : (Walk.start text).outcome rules = splitRec rules text := by
    simp only [Walk.outcome, Walk.start, Pending.outcomes, Pending.outcome, List.drop_zero]
    cases splitRec rules text with
    | error rule => rfl
    | ok ts => simp [Except.bind, Except.map]
  have hrounds : (Walk.start text).rounds ≤ 3 * text.length + 1 := by
    rw [Walk.start, Walk.rounds_cons]
    exact Nat.le_refl _
  rw [← houtcome]
  exact Walk.run_alike rules _ _ hrounds

/-! ## Steps -/

section Step

variable {rules : List Rule} {source : List Char} {cursor : Nat} {hit : Hit}

theorem splitStep_of_empty (hc : cursor < source.length)
    (hfirst : firstSelection (Rule.complete rules) (source.drop cursor) = some hit)
    (hempty : hit.span.stop ≤ hit.span.start) : splitStep source cursor rules =
      .error (.emptyMatch hit.rule.tag hit.rule.text (hit.span.start + cursor) source) := by
  rw [splitStep, if_neg (Nat.not_le.mpr hc)]
  simp only [firstHit_eq, hfirst, if_pos hempty]
  rfl

/-- A step takes the selection that comes first, and splits the text before it on its own. -/
theorem splitStep_of_lt (hc : cursor < source.length)
    (hfirst : firstSelection (Rule.complete rules) (source.drop cursor) = some hit)
    (hlt : hit.span.start < hit.span.stop) : splitStep source cursor rules =
      (splitSkipped (Rule.complete rules) ((source.drop cursor).take hit.span.start)).map
        fun skipped => (skipped ++ [hit.token (source.drop cursor)], hit.span.stop + cursor) := by
  have hstart : hit.span.start + cursor = cursor ↔ hit.span.start = 0 := by omega
  have hhit : firstHit source cursor (Rule.complete rules) = .ok (hit.shift cursor) := by
    simp only [firstHit_eq, hfirst, if_neg (Nat.not_le.mpr hlt)]
  rw [splitStep, if_neg (Nat.not_le.mpr hc)]
  simp only [hhit, bind, pure, Except.bind, Except.pure, Hit.token_shift]
  simp only [Hit.shift, hstart, Span.of_add_self]
  by_cases hzero : hit.span.start = 0
  · rw [if_pos hzero, hzero, List.take_zero]
    rfl
  · rw [if_neg hzero]
    cases splitSkipped (Rule.complete rules) ((source.drop cursor).take hit.span.start) <;> rfl

/-- What comes of a step before the end of a text: an error, or tokens and a cursor further on. -/
theorem splitStep_spec (hc : cursor < source.length) {ts : List Token} {stop : Nat}
    (h : splitStep source cursor rules = .ok (ts, stop)) :
    ∃ hit skipped, firstSelection (Rule.complete rules) (source.drop cursor) = some hit ∧
      hit.span.start < hit.span.stop ∧
      splitRec rules ((source.drop cursor).take hit.span.start) = .ok skipped ∧
      ts = skipped ++ [hit.token (source.drop cursor)] ∧ stop = hit.span.stop + cursor := by
  obtain ⟨hit, hfirst⟩ := exists_firstSelection hc rules
  by_cases hlt : hit.span.start < hit.span.stop
  · rw [splitStep_of_lt hc hfirst hlt] at h
    obtain ⟨skipped, hskipped, hstep⟩ := Except.map_eq_ok.mp h
    obtain ⟨rfl, rfl⟩ := Prod.mk.inj hstep
    have hrec := ((splitSkipped_alike rules _).ok_iff skipped).mp hskipped
    exact ⟨hit, skipped, hfirst, hlt, hrec, rfl, rfl⟩
  · rw [splitStep_of_empty hc hfirst (Nat.le_of_not_lt hlt)] at h
    exact absurd h (by simp)

/-- A step moves the cursor forward and not past the end. -/
theorem splitStep_advances (hc : cursor < source.length) {ts : List Token} {stop : Nat}
    (h : splitStep source cursor rules = .ok (ts, stop)) : cursor < stop ∧ stop ≤ source.length := by
  obtain ⟨hit, _, hfirst, hlt, _, _, rfl⟩ := splitStep_spec hc h
  have hstop := firstSelection_stop_le hfirst
  rw [List.length_drop] at hstop
  omega

end Step

/-- The tokens of a text from a cursor on, step after step. -/
def splitSteps (source : List Char) (rules : List Rule) (cursor : Nat) :
    Except GrammarError (List Token) :=
  if _hc : cursor < source.length then
    match _h : splitStep source cursor rules with
    | .error e => .error e
    | .ok (ts, stop) => (splitSteps source rules stop).map (ts ++ ·)
  else .ok []
termination_by source.length - cursor
decreasing_by
  have := splitStep_advances _hc _h
  omega

theorem splitSteps_of_le {source : List Char} {cursor : Nat} (h : source.length ≤ cursor)
    (rules : List Rule) : splitSteps source rules cursor = .ok [] := by
  rw [splitSteps, dif_neg (Nat.not_lt.mpr h)]

theorem splitSteps_of_lt {source : List Char} {cursor : Nat} (h : cursor < source.length)
    (rules : List Rule) : splitSteps source rules cursor = (splitStep source cursor rules).bind
      fun step => (splitSteps source rules step.2).map (step.1 ++ ·) := by
  rw [splitSteps, dif_pos h]
  split
  · next e he => rw [he]; rfl
  · next ts stop hok => rw [hok]; rfl

/-- **Steps split as the recursion does.** -/
theorem splitSteps_alike (rules : List Rule) (source : List Char) : ∀ (cursor : Nat),
    Alike (splitSteps source rules cursor) (splitRec rules (source.drop cursor)) := by
  intro cursor
  -- on the text that is left: each step is one node of the recursion, with all that comes before it
  induction hn : source.length - cursor using Nat.strongRecOn generalizing cursor with
  | ind n ih =>
    by_cases hc : cursor < source.length
    · obtain ⟨hit, hfirst⟩ := exists_firstSelection hc rules
      rw [splitSteps_of_lt hc]
      by_cases hlt : hit.span.start < hit.span.stop
      · have hstop := firstSelection_stop_le hfirst
        rw [List.length_drop] at hstop
        have hrest := ih (source.length - (hit.span.stop + cursor)) (by omega) _ rfl
        rw [splitStep_of_lt hc hfirst hlt, Except.bind_map, splitRec_of_lt hfirst hlt,
          List.drop_drop, Nat.add_comm cursor]
        refine (splitSkipped_alike rules _).bind fun skipped => ?_
        have hjoin : (fun after => skipped ++ hit.token (source.drop cursor) :: after) =
            ((skipped ++ [hit.token (source.drop cursor)]) ++ ·) := by
          funext after
          simp
        rw [hjoin]
        exact hrest.map _
      · have hempty : hit.span.stop ≤ hit.span.start := Nat.le_of_not_lt hlt
        rw [splitStep_of_empty hc hfirst hempty, splitRec_of_empty hfirst hempty]
        exact .error hit.rule _ source
    · have hend : source.length ≤ cursor := Nat.le_of_not_lt hc
      rw [splitSteps_of_le hend, List.drop_eq_nil_of_le hend, splitRec_nil]
      exact .ok []

/-! ## The three ways to split -/

/-- **The stack and the steps end as the recursion does**: with the same tokens, or at the rule
whose selection is the first to be empty.  Steps from a cursor on thus split the text from there as
the stack splits it in one piece. -/
theorem splits_alike (rules : List Rule) (text source : List Char) (cursor : Nat) :
    Alike (splitSkipped (Rule.complete rules) text) (splitRec rules text) ∧
    Alike (splitSteps source rules cursor) (splitRec rules (source.drop cursor)) ∧
    ∀ ts, splitSteps source rules cursor = .ok ts ↔
      splitSkipped (Rule.complete rules) (source.drop cursor) = .ok ts := by
  refine ⟨splitSkipped_alike rules text, splitSteps_alike rules source cursor, fun ts => ?_⟩
  rw [(splitSteps_alike rules source cursor).ok_iff, (splitSkipped_alike rules _).ok_iff]

end Highlight
