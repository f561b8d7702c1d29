import Highlight.Token

/-!
# Combining tokens

Each maximal run of neighbouring tokens with the same set of tags becomes one token, with the tags of
the first of them in their order.
-/

namespace Highlight

/-- A token followed by tokens with combined runs: it joins the run that comes first if the tags are
the same. -/
def joinRun (t : Token) : List Token → List Token
  | [] => [t]
  | u :: us =>
    if t.sameTags u then { t with content := t.content ++ u.content } :: us else t :: u :: us

/-- Merges each run of neighbouring tokens with the same tags. -/
def combine (ts : List Token) : List Token := ts.foldr joinRun []

theorem contents_joinRun (t : Token) (us : List Token) :
    contents (joinRun t us) = t.content ++ contents us := by
  cases us with
  | nil => rfl
  | cons u us =>
    by_cases h : t.sameTags u = true <;> simp [joinRun, h, contents]

/-- Combining keeps the text. -/
theorem contents_combine (ts : List Token) : contents (combine ts) = contents ts := by
  induction ts with
  | nil => rfl
  | cons t ts ih => rw [combine, List.foldr_cons, contents_joinRun, ← combine, ih]; rfl

end Highlight
