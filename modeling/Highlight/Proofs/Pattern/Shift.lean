import Highlight.Proofs.Pattern.Language

/-!
# A regular pattern sees only the text to come

Two runs of a regular pattern from places with the same text to come go the same way, whatever lies
before the places and wherever they stand (`run_agree`): both find nothing, or both end at places
with the same text to come, which are as far apart as those they started from.

A search of a regular pattern that goes on in a text thus finds what a search in the rest of the
text, on its own, finds there (`searchFrom_agree`).
-/

namespace Highlight

/-- `t` has the same text to come as `s`, and stands `d` characters further on. -/
def Progress.Shifted (d : Nat) (s t : Progress) : Prop :=
  t.rest = s.rest ∧ t.offset = s.offset + d

/-- Two runs find nothing, or end at places that are `d` characters apart. -/
abbrev Agree (d : Nat) : Option Progress → Option Progress → Prop :=
  Option.Rel (Progress.Shifted d)

theorem Agree.orElse {d : Nat} {a b a' b' : Option Progress} (ha : Agree d a a') (hb : Agree d b b') :
    Agree d (a <|> b) (a' <|> b') := by
  cases ha with
  | none => exact hb
  | some h => exact .some h

/-- What `run_agree` says of a search in place of a pattern. -/
def Agrees (body : Progress → Search → Option Progress) : Prop :=
  ∀ {d : Nat} {s t : Progress} {k l : Search}, s.Shifted d t →
    (∀ u v, u.Shifted d v → Agree d (k u) (l v)) → Agree d (body s k) (body t l)

section Copies

variable {body : Progress → Search → Option Progress} {d : Nat} {k l : Search}

theorem iterate_agree (hbody : Agrees body) (hkl : ∀ u v, u.Shifted d v → Agree d (k u) (l v)) :
    ∀ {n : Nat} {s t : Progress}, s.Shifted d t → Agree d (iterate body n s k) (iterate body n t l)
  | 0, _, _, hst => hkl _ _ hst
  | _ + 1, _, _, hst => hbody hst fun _ _ huv => iterate_agree hbody hkl huv

/-- The places where the copies before started are as far apart as those reached. -/
theorem extend_agree {greedy : Bool} (hbody : Agrees body)
    (hkl : ∀ u v, u.Shifted d v → Agree d (k u) (l v)) : ∀ {n : Nat} {last : Option Nat}
    {s t : Progress}, s.Shifted d t →
    Agree d (extend body greedy n last s k) (extend body greedy n (last.map (· + d)) t l)
  | 0, last, s, t, hst => hkl s t hst
  | n + 1, last, s, t, hst => by
    -- both runs come back to the place of the copy before, or neither does
    have hlast : last.map (· + d) = some t.offset ↔ last = some s.offset := by
      rw [hst.2]
      cases last with
      | none => simp
      | some m => simp
    have hcopy : Agree d (body s fun u => extend body greedy n (some s.offset) u k)
        (body t fun v => extend body greedy n (some t.offset) v l) := by
      refine hbody hst fun u v huv => ?_
      rw [hst.2]
      exact extend_agree hbody hkl huv
    have hstop := hkl s t hst
    simp only [extend, hlast]
    split
    · exact hstop
    · split
      · exact hcopy.orElse hstop
      · exact hstop.orElse hcopy

end Copies

namespace Pattern

/-- **Runs of a regular pattern from places with the same text to come agree.** -/
theorem run_agree (p : Pattern) (hp : p.isRegular = true) : Agrees p.run := by
  induction p with
  | empty => exact fun hst hkl => hkl _ _ hst
  | one chars =>
    intro d s t k l hst hkl
    rw [run, run, hst.1]
    cases s.rest with
    | nil => exact .none
    | cons c rest =>
      by_cases hc : chars.contains c = true
      · simp only [hc, if_true]
        exact hkl _ _ ⟨rfl, by simp only [Progress.past, hst.2]; omega⟩
      · simp only [hc]
        exact .none
  | seq p q ihp ihq =>
    rw [isRegular, Bool.and_eq_true] at hp
    exact fun hst hkl => ihp hp.1 hst fun _ _ huv => ihq hp.2 huv hkl
  | alt p q ihp ihq =>
    rw [isRegular, Bool.and_eq_true] at hp
    exact fun hst hkl => (ihp hp.1 hst hkl).orElse (ihq hp.2 hst hkl)
  | times lo hi greedy p ih =>
    intro d s t k l hst hkl
    refine iterate_agree (ih hp) (fun u v huv => ?_) hst
    have hbound : furtherCopies lo hi v = furtherCopies lo hi u := by
      unfold furtherCopies
      rw [huv.1]
    rw [hbound]
    exact extend_agree (ih hp) hkl huv
  | group i p ih => exact fun hst hkl => ih hp hst fun _ _ huv => hkl _ _ huv
  | backref | atomic | ifGroup | anchor | ahead | behind => exact absurd hp (by simp [isRegular])

/-- The search goes through the same places, with other text before them. -/
theorem searchFrom_agree {p : Pattern} (hp : p.isRegular = true) (d : Nat) :
    ∀ (rest before before' : List Char) (n : Nat),
    (p.searchFrom before' rest (n + d)).map (fun found => (found.start, found.final.offset)) =
      (p.searchFrom before rest n).map fun found => (found.start + d, found.final.offset + d)
  | [], before, before', n => by
    have hrun : Agree d (p.run ⟨before, [], n, []⟩ some) (p.run ⟨before', [], n + d, []⟩ some) :=
      run_agree p hp ⟨rfl, rfl⟩ fun _ _ huv => .some huv
    rw [searchFrom, searchFrom]
    generalize p.run ⟨before, [], n, []⟩ some = a, p.run ⟨before', [], n + d, []⟩ some = b at hrun
    cases hrun with
    | none => rfl
    | some h => simp [h.2]
  | c :: rest, before, before', n => by
    have hrun : Agree d (p.run ⟨before, c :: rest, n, []⟩ some)
        (p.run ⟨before', c :: rest, n + d, []⟩ some) :=
      run_agree p hp ⟨rfl, rfl⟩ fun _ _ huv => .some huv
    rw [searchFrom, searchFrom]
    generalize p.run ⟨before, c :: rest, n, []⟩ some = a,
      p.run ⟨before', c :: rest, n + d, []⟩ some = b at hrun
    cases hrun with
    | none =>
      show (p.searchFrom (c :: before') rest (n + d + 1)).map _ = _
      rw [Nat.add_right_comm]
      exact searchFrom_agree hp d rest (c :: before) (c :: before') (n + 1)
    | some h => simp [h.2]

end Pattern

end Highlight
