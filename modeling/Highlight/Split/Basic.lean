import Highlight.Rule
import Highlight.Token

/-!
# Splitting a text by rules

A step takes the first rule of a table that selects anything at or after the cursor: the order of the
rules decides, not the place of the match.  The text skipped before the match is split on its own, by
the same rules and as a text of its own, and its tokens come first.

## Termination

The skipped text is worked off with a stack of pending pieces (`Walk`).  Each round of the work takes
one piece from the stack.  A segment is replaced by at most three pieces, of which the token takes at
least one character, so `3 * n + 1` rounds are enough for a text of `n` characters.
-/

namespace Highlight

/-- The rule that wins a search, and the span it selects. -/
structure Hit where
  rule : Rule
  span : Span

/-- The token of a hit. -/
def Hit.token (h : Hit) (source : List Char) : Token := .single (h.span.of source) h.rule.tag

/-- The first rule that selects something at or after the cursor.  To select an empty span is an
error. -/
def firstHit (source : List Char) (cursor : Nat) : List Rule → Except GrammarError Hit
  | [] => .error (.noMatch cursor source)
  | rule :: rules =>
    match rule.find source cursor with
    | none => firstHit source cursor rules
    | some span =>
      if span.stop ≤ span.start then .error (.emptyMatch rule.tag rule.text span.start source)
      else .ok ⟨rule, span⟩

/-! ## Skipped text -/

/-- A piece of work: a segment still to be split from `cursor` on, or a token that waits for the text
skipped before it. -/
inductive Pending where
  | segment (text : List Char) (cursor : Nat)
  | token (t : Token)

/-- Work in progress: the pieces pending, the next one first, and the tokens done, the latest first. -/
structure Walk where
  pending : List Pending
  done : List Token

namespace Walk

/-- The work on a whole text. -/
def start (text : List Char) : Walk := ⟨[.segment text 0], []⟩

/-- One round of work by the given rules. -/
def step (rules : List Rule) (w : Walk) : Except GrammarError Walk :=
  match w.pending with
  | [] => .ok w
  | .token t :: pending => .ok ⟨pending, t :: w.done⟩
  | .segment text cursor :: pending =>
    if text.length ≤ cursor then .ok { w with pending }
    else
      match firstHit text cursor rules with
      | .error e => .error e
      | .ok hit =>
        let rest := .token (hit.token text) :: .segment text hit.span.stop :: pending
        if cursor < hit.span.start then
          .ok { w with pending := .segment (Span.of ⟨cursor, hit.span.start⟩ text) 0 :: rest }
        else .ok { w with pending := rest }

/-- Up to `rounds` rounds of work. -/
def run (rules : List Rule) : (rounds : Nat) → Walk → Except GrammarError Walk
  | 0, w => .ok w
  | n + 1, w =>
    match w.pending with
    | [] => .ok w
    | _ :: _ => (w.step rules).bind (run rules n)

end Walk

/-- The tokens of a text that was skipped. -/
def splitSkipped (rules : List Rule) (text : List Char) : Except GrammarError (List Token) :=
  (Walk.run rules (3 * text.length + 1) (.start text)).map (·.done.reverse)

/-! ## Steps -/

/-- One step by the rules of a table: the tokens of the skipped text and of the match, and the cursor
after the match.  At the end of the text there is nothing to do. -/
def splitStep (source : List Char) (cursor : Nat) (rules : List Rule) :
    Except GrammarError (List Token × Nat) := do
  if source.length ≤ cursor then return ([], cursor)
  let rules := Rule.complete rules
  let hit ← firstHit source cursor rules
  if hit.span.start = cursor then return ([hit.token source], hit.span.stop)
  let skipped ← splitSkipped rules (Span.of ⟨cursor, hit.span.start⟩ source)
  return (skipped ++ [hit.token source], hit.span.stop)

end Highlight
