import Highlight.Proofs.Grammar.Tags
import Mathlib.Data.List.Forall2

/-!
# Tokenizing with any grammar

Nothing is known here of the steps of a grammar: a step may put the cursor anywhere, and give tokens or
not.  As a state counts the steps taken, a step may also do something else at each call.

The calls of a run are told one by one: each moves the cursor forward, and the next call gets the state
that it leaves (`Grammar.Calls`).  A run makes such calls until the source is used up, until a step does
not move the cursor forward, or until a step fails (`exists_calls`).  Which calls there are is decided by
the steps at the states of these calls alone (`Calls.of_alike`), so there are no others.
-/

namespace Highlight

/-! ## Tokens that get more tags -/

/-- A token is another one with tags added after its own. -/
structure Token.Extends (u t : Token) : Prop where
  content : u.content = t.content
  tags : t.tags <+: u.tags

theorem Token.Extends.refl (t : Token) : t.Extends t := ⟨rfl, List.prefix_rfl⟩

theorem Token.Extends.trans {t u v : Token} (h : v.Extends u) (h' : u.Extends t) : v.Extends t :=
  ⟨h.content.trans h'.content, h'.tags.trans h.tags⟩

theorem Token.extends_addTag (t : Token) (tag : String) : (t.addTag tag).Extends t := by
  refine ⟨rfl, ?_⟩
  show t.tags <+: withTag t.tags tag
  unfold withTag
  split
  · exact List.prefix_rfl
  · exact List.prefix_append t.tags [tag]

theorem Token.extends_addTags : ∀ (tags : List String) (t : Token), (t.addTags tags).Extends t
  | [], t => .refl t
  | tag :: tags, t => (extends_addTags tags (t.addTag tag)).trans (t.extends_addTag tag)

theorem extends_modifyLast {f : Token → Token} (hf : ∀ t, (f t).Extends t) : ∀ {us ts : List Token},
    List.Forall₂ Token.Extends us ts → List.Forall₂ Token.Extends (modifyLast f us) ts
  | _, _, .nil => .nil
  | _, _, .cons h .nil => .cons ((hf _).trans h) .nil
  | _, _, .cons h (.cons h' rest) => .cons h (extends_modifyLast hf (.cons h' rest))

/-! ## Calls -/

/-- A call of the step of a grammar: the state it is made with, and what it does. -/
structure Call where
  before : LexerState
  step : Step

/-- The tokens that calls give, in the order of the calls. -/
def batches (calls : List Call) : List Token := calls.flatMap fun c => c.step.batch.getD []

/-- The calls of a grammar from one state to another: there is source left at each of them, and each
moves the cursor forward. -/
inductive Grammar.Calls (g : Grammar) : LexerState → List Call → LexerState → Prop
  | none (s : LexerState) : g.Calls s [] s
  | call {s last : LexerState} {t : Step} {calls : List Call} (left : s.cursor < s.source.length)
      (step : g.step s = .ok t) (forward : s.cursor < t.cursor) (more : g.Calls (s.after t) calls last) :
      g.Calls s (⟨s, t⟩ :: calls) last

/-- The result of a run that makes no further call that moves the cursor forward. -/
inductive Grammar.Ends (g : Grammar) (s : LexerState) : Except GrammarError (List Token) → Prop
  | done (all : s.source.length ≤ s.cursor) : g.Ends s (.ok s.tokens)
  | stuck {t : Step} (left : s.cursor < s.source.length) (step : g.step s = .ok t)
      (back : t.cursor ≤ s.cursor) : g.Ends s (.error (.noProgress g.name s.cursor s.source))
  | failed {e : GrammarError} (left : s.cursor < s.source.length) (step : g.step s = .error e) :
      g.Ends s (.error e)

section Calls

variable {g : Grammar} {s last : LexerState} {calls : List Call}

theorem Grammar.Ends.run_eq {result : Except GrammarError (List Token)} (h : g.Ends s result) :
    g.run s = result := by
  rw [Grammar.run]
  cases h with
  | done all => rw [if_neg (Nat.not_lt.mpr all)]
  | stuck left step back =>
    rw [if_pos left, step]
    exact if_pos back
  | failed left step => rw [if_pos left, step]

theorem Grammar.Calls.run_eq (h : g.Calls s calls last) : g.run s = g.run last := by
  induction h with
  | none s => rfl
  | call left step forward _ ih => exact (run_of_forward left step forward).trans ih

theorem Grammar.Calls.source_eq (h : g.Calls s calls last) : last.source = s.source := by
  induction h with
  | none s => rfl
  | call _ _ _ _ ih => exact ih

/-- Each call takes at least one character of what is left. -/
theorem Grammar.Calls.length_le (h : g.Calls s calls last) :
    calls.length ≤ s.source.length - s.cursor := by
  induction h with
  | none s => exact Nat.zero_le _
  | @call s last t calls left step forward _ ih =>
    have hrest : calls.length ≤ s.source.length - t.cursor.toNat := ih
    rw [List.length_cons]
    omega

/-- **Every run makes calls and ends.** -/
theorem exists_calls (g : Grammar) (s : LexerState) :
    ∃ calls last, g.Calls s calls last ∧ g.Ends last (g.run s) := by
  -- on the source that is left
  induction hn : s.source.length - s.cursor using Nat.strongRecOn generalizing s with
  | ind n ih =>
    by_cases left : s.cursor < s.source.length
    · cases step : g.step s with
      | error e =>
        have hends : g.Ends s (.error e) := .failed left step
        exact ⟨[], s, .none s, hends.run_eq ▸ hends⟩
      | ok t =>
        by_cases back : t.cursor ≤ s.cursor
        · have hends : g.Ends s (.error (.noProgress g.name s.cursor s.source)) := .stuck left step back
          exact ⟨[], s, .none s, hends.run_eq ▸ hends⟩
        · have forward : (s.cursor : Int) < t.cursor := Int.not_le.mp back
          have hless : (s.after t).source.length - (s.after t).cursor < n := by
            show s.source.length - t.cursor.toNat < n
            omega
          obtain ⟨calls, last, hcalls, hends⟩ := ih _ hless (s.after t) rfl
          refine ⟨⟨s, t⟩ :: calls, last, .call left step forward hcalls, ?_⟩
          rwa [run_of_forward left step forward]
    · have hends : g.Ends s (.ok s.tokens) := .done (Nat.not_lt.mp left)
      exact ⟨[], s, .none s, hends.run_eq ▸ hends⟩

/-! ## What the calls leave -/

/-- After calls there are the tokens of before and those that the calls gave, maybe with more tags. -/
theorem Grammar.Calls.extends (h : g.Calls s calls last) : ∀ {ts : List Token},
    List.Forall₂ Token.Extends s.tokens ts →
      List.Forall₂ Token.Extends last.tokens (ts ++ batches calls) := by
  induction h with
  | none s => exact fun hts => (List.append_nil _).symm ▸ hts
  | @call s last t calls _ _ _ _ ih =>
    intro ts hts
    have hbatch : List.Forall₂ Token.Extends (t.batch.getD []) (t.batch.getD []) :=
      List.forall₂_same.mpr fun u _ => .refl u
    have hafter : List.Forall₂ Token.Extends (s.after t).tokens (ts ++ t.batch.getD []) :=
      List.rel_append (extends_modifyLast (Token.extends_addTags t.backTags) hts) hbatch
    have hlast := ih hafter
    rwa [List.append_assoc] at hlast

/-- Without tags for earlier tokens, the tokens stay as they were given. -/
theorem Grammar.Calls.tokens_eq (h : g.Calls s calls last) (hback : ∀ c ∈ calls, c.step.backTags = []) :
    last.tokens = s.tokens ++ batches calls := by
  induction h with
  | none s => exact (List.append_nil _).symm
  | @call s last t calls _ _ _ _ ih =>
    have hnone : t.backTags = [] := hback _ List.mem_cons_self
    have hkept : modifyLast (·.addTags []) s.tokens = s.tokens :=
      modifyLast_eq_self (fun _ => rfl) s.tokens
    have hafter : (s.after t).tokens = s.tokens ++ t.batch.getD [] := by
      rw [LexerState.after, hnone, hkept]
    rw [ih fun c hc => hback c (List.mem_cons_of_mem _ hc), hafter, List.append_assoc]
    rfl

/-! ## Grammars that step alike -/

theorem Grammar.Calls.of_alike {g' : Grammar} (h : g.Calls s calls last)
    (halike : ∀ c ∈ calls, g'.step c.before = g.step c.before) : g'.Calls s calls last := by
  induction h with
  | none s => exact .none s
  | call left step forward _ ih =>
    have hstep := (halike _ List.mem_cons_self).trans step
    exact .call left hstep forward (ih fun c hc => halike c (List.mem_cons_of_mem _ hc))

theorem Grammar.Ends.of_alike {g' : Grammar} {result : Except GrammarError (List Token)}
    (h : g.Ends s result) (hname : g'.name = g.name)
    (halike : s.cursor < s.source.length → g'.step s = g.step s) : g'.Ends s result := by
  cases h with
  | done all => exact .done all
  | stuck left step back => exact hname ▸ .stuck left ((halike left).trans step) back
  | failed left step => exact .failed left ((halike left).trans step)

end Calls

/-! ## The tokens of a text -/

theorem tokenize_of_setUp {g : Grammar} {source : List Char} {s : LexerState}
    (hsetUp : g.setUp { source } = .ok s) : tokenize g source false = g.run s := by
  rw [tokenize, rawTokens, hsetUp]
  show (g.run s).map (fun ts => ts) = g.run s
  cases g.run s <;> rfl

/-- **Whatever the steps of a grammar do, tokenizing a text is to make calls until one does not move the
cursor forward.**  The result comes from some calls and how they end, and is the same for every grammar
that steps alike there, so that no other call is made.  Calls that move the cursor forward are no more
than the characters of the text.  Where they use up the text, the tokens are those they gave, one batch
after the other, to which calls may have added tags; where the next call leaves the cursor where it is or
moves it back, that is the error, at the cursor before that call. -/
theorem tokenize_calls {g : Grammar} {source : List Char} {s : LexerState}
    (hsetUp : g.setUp { source } = .ok s) (hsource : s.source = source) (htokens : s.tokens = []) :
    (∃ calls last, g.Calls s calls last ∧ g.Ends last (tokenize g source false) ∧
      ∀ g' : Grammar, g'.name = g.name → g'.setUp = g.setUp →
        (∀ c ∈ calls, g'.step c.before = g.step c.before) →
        (last.cursor < source.length → g'.step last = g.step last) →
        tokenize g' source false = tokenize g source false) ∧
    ∀ calls last, g.Calls s calls last →
      calls.length ≤ source.length ∧
      (source.length ≤ last.cursor →
        ∃ ts, tokenize g source false = .ok ts ∧ List.Forall₂ Token.Extends ts (batches calls) ∧
          ((∀ c ∈ calls, c.step.backTags = []) → ts = batches calls)) ∧
      ∀ t, last.cursor < source.length → g.step last = .ok t → t.cursor ≤ last.cursor →
        tokenize g source false = .error (.noProgress g.name last.cursor source) := by
  have hrun := tokenize_of_setUp hsetUp
  have hlast : ∀ {calls last}, g.Calls s calls last → last.source = source :=
    fun hcalls => hcalls.source_eq.trans hsource
  refine ⟨?_, fun calls last hcalls => ⟨?_, fun all => ?_, fun t left step back => ?_⟩⟩
  · obtain ⟨calls, last, hcalls, hends⟩ := exists_calls g s
    rw [hrun]
    refine ⟨calls, last, hcalls, hends, fun g' hname hsetUp' hcall hnext => ?_⟩
    rw [tokenize_of_setUp (hsetUp' ▸ hsetUp), (hcalls.of_alike hcall).run_eq]
    exact (hends.of_alike hname ((hlast hcalls).symm ▸ hnext)).run_eq
  · exact hsource ▸ Nat.le_trans hcalls.length_le (Nat.sub_le _ _)
  · have hends : g.Ends last (.ok last.tokens) := .done ((hlast hcalls).symm ▸ all)
    refine ⟨last.tokens, ?_, ?_, fun hback => ?_⟩
    · rw [hrun, hcalls.run_eq, hends.run_eq]
    · have hnone : List.Forall₂ Token.Extends s.tokens [] := by rw [htokens]; exact .nil
      exact hcalls.extends hnone
    · rw [hcalls.tokens_eq hback, htokens, List.nil_append]
  · have hends := Grammar.Ends.stuck ((hlast hcalls).symm ▸ left) step back
    rw [hrun, hcalls.run_eq, hends.run_eq, hlast hcalls]

/-- Steps laid down: one with a token, one with none, and one that moves the cursor back. -/
def CustomGrammar.backward : CustomGrammar where
  script := [some ⟨2, some [.single ['x'] "a"]⟩, some ⟨1, none⟩, some ⟨-3, some [.single ['y'] "b"]⟩]

/-- Steps laid down: one without a token, and one past the end with two. -/
def CustomGrammar.overshoot : CustomGrammar where
  script := [some ⟨1, some []⟩, some ⟨9, some [.single ['x'] "a", .single ['x'] "a"]⟩]

/-- A step that moves the cursor back is the error, and one past the end is the last. -/
theorem tokenize_calls_script :
    tokenize CustomGrammar.backward.grammar ['p', 'q', 'r', 's'] false =
      .error (.noProgress "custom" 3 ['p', 'q', 'r', 's']) ∧
    ∃ ts, tokenize CustomGrammar.overshoot.grammar ['p', 'q', 'r', 's'] false = .ok ts ∧
      ts = [.single ['x'] "a", .single ['x'] "a"] := by
  constructor
  · have hcalls : CustomGrammar.backward.grammar.Calls { source := ['p', 'q', 'r', 's'] } _ _ :=
      .call (by decide) rfl (by decide) (.call (by decide) rfl (by decide) (.none _))
    exact ((tokenize_calls rfl rfl rfl).2 _ _ hcalls).2.2 _ (by decide) rfl (by decide)
  · have hcalls : CustomGrammar.overshoot.grammar.Calls { source := ['p', 'q', 'r', 's'] } _ _ :=
      .call (by decide) rfl (by decide) (.call (by decide) rfl (by decide) (.none _))
    obtain ⟨ts, hok, _, heq⟩ := ((tokenize_calls rfl rfl rfl).2 _ _ hcalls).2.1 (by decide)
    exact ⟨ts, hok, heq (by decide)⟩

end Highlight
