import Highlight.Pattern.Matching

/-!
# The ways through a pattern

`Pattern.run` tries the ways through a pattern in the order of preference and hands each place it
comes to over to a continuation.  Most facts about matching do not depend on that order.
`Pattern.Reaches` says only from where to where a pattern can match, and `run_reaches` says that
every answer of `run` comes from such a way.

What holds along every way is then shown once, by induction on `Reaches`: a match stays inside its
text and never goes back (`Reaches.within`), and every group holds the text of a match of its own
pattern (`Reaches.captured`).
-/

namespace Highlight

/-! ## Ways through a pattern -/

/-- From `s` on, the pattern can match up to `t`. -/
inductive Pattern.Reaches : Pattern → Progress → Progress → Prop
  | empty {s : Progress} : Reaches .empty s s
  | one {chars : CharClass} {s : Progress} {c : Char} {rest : List Char}
      (next : s.rest = c :: rest) (mem : chars.contains c = true) :
      Reaches (.one chars) s (s.past c rest)
  | seq {p q : Pattern} {s t u : Progress} (first : Reaches p s t) (second : Reaches q t u) :
      Reaches (.seq p q) s u
  | left {p q : Pattern} {s t : Progress} (way : Reaches p s t) : Reaches (.alt p q) s t
  | right {p q : Pattern} {s t : Progress} (way : Reaches q s t) : Reaches (.alt p q) s t
  /-- All copies that must be there are there. -/
  | done {hi : Option Nat} {greedy : Bool} {p : Pattern} {s : Progress} :
      Reaches (.times 0 hi greedy p) s s
  /-- One copy, and what remains of the bounds after it. -/
  | copy {lo : Nat} {hi : Option Nat} {greedy : Bool} {p : Pattern} {s t u : Progress}
      (allowed : 0 < lo ∨ hi ≠ some 0) (first : Reaches p s t)
      (others : Reaches (.times (lo - 1) (hi.map (· - 1)) greedy p) t u) :
      Reaches (.times lo hi greedy p) s u
  | group {i : Nat} {p : Pattern} {s t : Progress} (way : Reaches p s t) :
      Reaches (.group i p) s (t.record i s)
  | backref {i : Nat} {foldCase : Bool} {s : Progress} {g : Capture} (holds : s.group? i = some g)
      (next : startsWith foldCase g.text s.rest = true) :
      Reaches (.backref i foldCase) s (s.forward g.text.length)
  | atomic {p : Pattern} {s t : Progress} (way : Reaches p s t) : Reaches (.atomic p) s t
  | ifSet {i : Nat} {p q : Pattern} {s t : Progress} (way : Reaches p s t) :
      Reaches (.ifGroup i p q) s t
  | ifUnset {i : Nat} {p q : Pattern} {s t : Progress} (way : Reaches q s t) :
      Reaches (.ifGroup i p q) s t
  | anchor {a : Anchor} {s : Progress} (holds : a.holds s = true) : Reaches (.anchor a) s s
  | ahead {p : Pattern} {s t : Progress} (way : Reaches p s t) :
      Reaches (.ahead true p) s { s with groups := t.groups }
  | notAhead {p : Pattern} {s : Progress} (fails : p.run s some = none) : Reaches (.ahead false p) s s
  | behind {width : Nat} {p : Pattern} {s t u : Progress} (back : s.back? width = some t)
      (way : Reaches p t u) : Reaches (.behind true width p) s { s with groups := u.groups }
  | notBehind {width : Nat} {p : Pattern} {s : Progress}
      (fails : (s.back? width).bind (fun t => p.run t some) = none) :
      Reaches (.behind false width p) s s

theorem some_of_orElse {α : Type} {o o' : Option α} {a : α} (h : (o <|> o') = some a) :
    o = some a ∨ o' = some a := by
  rw [Option.orElse_eq_orElse, Option.orElse_eq_or] at h
  rcases Option.or_eq_some_iff.mp h with h | ⟨_, h⟩
  · exact Or.inl h
  · exact Or.inr h

namespace Pattern

/-- The copies that must be there, of a pattern whose own answers come from ways through it. -/
theorem iterate_reaches {p : Pattern} (greedy : Bool)
    (hp : ∀ {s r : Progress} {k : Search}, p.run s k = some r → ∃ t, p.Reaches s t ∧ k t = some r) :
    ∀ (lo : Nat) (hi : Option Nat) {s r : Progress} {k : Search},
      iterate (fun t l => p.run t l) lo s k = some r →
      ∃ t, k t = some r ∧ ∀ u, (times 0 (hi.map (· - lo)) greedy p).Reaches t u →
        (times lo hi greedy p).Reaches s u
  | 0, hi, s, r, k, h => ⟨s, h, fun u hu => by simpa using hu⟩
  | lo + 1, hi, s, r, k, h => by
    rw [iterate] at h
    obtain ⟨t, hst, ht⟩ := hp h
    obtain ⟨v, hv, hvu⟩ := iterate_reaches greedy hp lo (hi.map (· - 1)) ht
    refine ⟨v, hv, fun u hu => .copy (.inl (Nat.succ_pos lo)) hst (hvu u ?_)⟩
    rw [Option.map_map]
    have hsub : (· - lo) ∘ (· - 1) = fun n : Nat => n - (lo + 1) := by
      funext n
      simp only [Function.comp_apply]
      omega
    rw [hsub]
    exact hu

/-- Further copies, of a pattern whose own answers come from ways through it. -/
theorem extend_reaches {p : Pattern} {greedy : Bool}
    (hp : ∀ {s r : Progress} {k : Search}, p.run s k = some r → ∃ t, p.Reaches s t ∧ k t = some r) :
    ∀ {n : Nat} {hi : Option Nat} {last : Option Nat} {s r : Progress} {k : Search},
      (∀ m ∈ hi, n ≤ m) → extend (fun t l => p.run t l) greedy n last s k = some r →
      ∃ t, (times 0 hi greedy p).Reaches s t ∧ k t = some r
  | 0, hi, last, s, r, k, _, h => ⟨s, .done, h⟩
  | n + 1, hi, last, s, r, k, hn, h => by
    have hmore : hi ≠ some 0 := by
      rintro rfl
      exact absurd (hn 0 rfl) (by omega)
    have hless : ∀ m ∈ hi.map (· - 1), n ≤ m := by
      intro m hm
      obtain ⟨m', hm', rfl⟩ := Option.map_eq_some_iff.mp hm
      have := hn m' hm'
      omega
    -- the two orders of preference differ only in which of these is tried first
    have hcopy : p.run s (fun t => extend (fun t l => p.run t l) greedy n (some s.offset) t k) =
        some r → ∃ t, (times 0 hi greedy p).Reaches s t ∧ k t = some r := by
      intro hrun
      obtain ⟨t, hst, ht⟩ := hp hrun
      obtain ⟨u, htu, hu⟩ := extend_reaches hp hless ht
      exact ⟨u, .copy (.inr hmore) hst htu, hu⟩
    have hstop : k s = some r → ∃ t, (times 0 hi greedy p).Reaches s t ∧ k t = some r :=
      fun hk => ⟨s, .done, hk⟩
    rw [extend] at h
    split at h
    · exact hstop h
    · split at h
      · rcases some_of_orElse h with h | h
        · exact hcopy h
        · exact hstop h
      · rcases some_of_orElse h with h | h
        · exact hstop h
        · exact hcopy h

/-- **What matching finds, it finds along a way through the pattern.** -/
theorem run_reaches (p : Pattern) : ∀ {s r : Progress} {k : Search}, p.run s k = some r →
    ∃ t, p.Reaches s t ∧ k t = some r := by
  induction p with
  | empty => intro s r k h; exact ⟨s, .empty, h⟩
  | one chars =>
    intro s r k h
    rw [run] at h
    split at h
    · exact absurd h (by simp)
    · next c rest hrest =>
      split at h
      · next hc => exact ⟨_, .one hrest hc, h⟩
      · exact absurd h (by simp)
  | seq p q ihp ihq =>
    intro s r k h
    rw [run] at h
    obtain ⟨t, hst, ht⟩ := ihp h
    obtain ⟨u, htu, hu⟩ := ihq ht
    exact ⟨u, .seq hst htu, hu⟩
  | alt p q ihp ihq =>
    intro s r k h
    rw [run] at h
    rcases some_of_orElse h with h | h
    · obtain ⟨t, hst, ht⟩ := ihp h
      exact ⟨t, .left hst, ht⟩
    · obtain ⟨t, hst, ht⟩ := ihq h
      exact ⟨t, .right hst, ht⟩
  | times lo hi greedy p ih =>
    intro s r k h
    rw [run] at h
    obtain ⟨t, ht, hrest⟩ := iterate_reaches greedy ih lo hi h
    have hbound : ∀ m ∈ hi.map (· - lo), furtherCopies lo hi t ≤ m := by
      intro m hm
      obtain ⟨m', rfl, rfl⟩ := Option.map_eq_some_iff.mp hm
      rw [furtherCopies]
      exact Nat.min_le_left _ _
    obtain ⟨u, htu, hu⟩ := extend_reaches ih hbound ht
    exact ⟨u, hrest u htu, hu⟩
  | group i p ih =>
    intro s r k h
    rw [run] at h
    obtain ⟨t, hst, ht⟩ := ih h
    exact ⟨t.record i s, .group hst, ht⟩
  | backref i foldCase =>
    intro s r k h
    rw [run] at h
    split at h
    · exact absurd h (by simp)
    · next g hg =>
      split at h
      · next hnext => exact ⟨_, .backref hg hnext, h⟩
      · exact absurd h (by simp)
  | atomic p ih =>
    intro s r k h
    rw [run] at h
    split at h
    · exact absurd h (by simp)
    · next t ht =>
      obtain ⟨u, hsu, hu⟩ := ih ht
      obtain rfl : u = t := Option.some.inj hu
      exact ⟨u, .atomic hsu, h⟩
  | ifGroup i p q ihp ihq =>
    intro s r k h
    rw [run] at h
    split at h
    · obtain ⟨t, hst, ht⟩ := ihp h
      exact ⟨t, .ifSet hst, ht⟩
    · obtain ⟨t, hst, ht⟩ := ihq h
      exact ⟨t, .ifUnset hst, ht⟩
  | anchor a =>
    intro s r k h
    rw [run] at h
    split at h
    · next ha => exact ⟨s, .anchor ha, h⟩
    · exact absurd h (by simp)
  | ahead positive p ih =>
    intro s r k h
    rw [run] at h
    split at h
    · next t ht =>
      obtain ⟨u, hsu, hu⟩ := ih ht
      obtain rfl : u = t := Option.some.inj hu
      cases positive with
      | true => exact ⟨_, .ahead hsu, h⟩
      | false => exact absurd h (by simp)
    · next hnone =>
      cases positive with
      | true => exact absurd h (by simp)
      | false => exact ⟨s, .notAhead hnone, h⟩
  | behind positive width p ih =>
    intro s r k h
    rw [run] at h
    split at h
    · next u hu =>
      obtain ⟨t, hback, ht⟩ := Option.bind_eq_some_iff.mp hu
      obtain ⟨v, htv, hv⟩ := ih ht
      obtain rfl : v = u := Option.some.inj hv
      cases positive with
      | true => exact ⟨_, .behind hback htv, h⟩
      | false => exact absurd h (by simp)
    · next hnone =>
      cases positive with
      | true => exact absurd h (by simp)
      | false => exact ⟨s, .notBehind hnone, h⟩

end Pattern

/-! ## Places inside a text -/

namespace Progress

/-- The place after the first `n` characters of a text, with no group matched. -/
def place (text : List Char) (n : Nat) : Progress := ⟨(text.take n).reverse, text.drop n, n, []⟩

/-- A place inside a text, whose groups hold texts inside it. -/
structure Within (text : List Char) (s : Progress) : Prop where
  split : s.before.reverse ++ s.rest = text
  offset : s.offset = s.before.length
  groups : ∀ e ∈ s.groups, e.2.start ≤ e.2.stop ∧ e.2.stop ≤ text.length

theorem Within.offset_le {text : List Char} {s : Progress} (h : s.Within text) :
    s.offset ≤ text.length := by
  rw [h.offset, ← h.split, List.length_append, List.length_reverse]
  exact Nat.le_add_right _ _

theorem within_place {text : List Char} {n : Nat} (h : n ≤ text.length) :
    (Progress.place text n).Within text where
  split := by rw [Progress.place, List.reverse_reverse, List.take_append_drop]
  offset := by simp only [Progress.place, List.length_reverse, List.length_take]; omega
  groups := fun e he => absurd he List.not_mem_nil

/-- A place further back is inside the text as well, with the same groups. -/
theorem Within.back {text : List Char} {s t : Progress} {n : Nat} (hs : s.Within text)
    (h : s.back? n = some t) : t.Within text ∧ t.groups = s.groups := by
  rw [back?] at h
  split at h
  · exact absurd h (by simp)
  · obtain rfl := Option.some.inj h
    refine ⟨⟨?_, ?_, hs.groups⟩, rfl⟩
    · rw [← List.append_assoc, ← List.reverse_append, List.take_append_drop]
      exact hs.split
    · simp only [hs.offset, List.length_drop]

end Progress

theorem length_le_of_startsWith {foldCase : Bool} : ∀ {text rest : List Char},
    startsWith foldCase text rest = true → text.length ≤ rest.length
  | [], _, _ => Nat.zero_le _
  | _ :: _, [], h => by simp [startsWith] at h
  | _ :: text, _ :: rest, h => by
    rw [startsWith, Bool.and_eq_true] at h
    exact Nat.succ_le_succ (length_le_of_startsWith h.2)

/-- **A match stays inside its text and does not go back.** -/
theorem Pattern.Reaches.within {text : List Char} {p : Pattern} {s t : Progress} (h : p.Reaches s t)
    (hs : s.Within text) : t.Within text ∧ s.offset ≤ t.offset := by
  induction h with
  | empty | done => exact ⟨hs, Nat.le_refl _⟩
  | @one chars s c rest next mem =>
    refine ⟨⟨?_, ?_, hs.groups⟩, Nat.le_succ _⟩
    · rw [← hs.split, next]
      simp [Progress.past]
    · simp [Progress.past, hs.offset]
  | seq _ _ ih₁ ih₂ =>
    obtain ⟨ht, hle⟩ := ih₁ hs
    obtain ⟨hu, hle'⟩ := ih₂ ht
    exact ⟨hu, Nat.le_trans hle hle'⟩
  | left _ ih | right _ ih | atomic _ ih | ifSet _ ih | ifUnset _ ih => exact ih hs
  | copy _ _ _ ih₁ ih₂ =>
    obtain ⟨ht, hle⟩ := ih₁ hs
    obtain ⟨hu, hle'⟩ := ih₂ ht
    exact ⟨hu, Nat.le_trans hle hle'⟩
  | @group i p s t _ ih =>
    obtain ⟨ht, hle⟩ := ih hs
    refine ⟨⟨ht.split, ht.offset, ?_⟩, hle⟩
    intro e he
    rcases List.mem_cons.mp he with rfl | he
    · exact ⟨hle, ht.offset_le⟩
    · exact ht.groups e he
  | @backref i foldCase s g holds next =>
    have hlen : g.text.length ≤ s.rest.length := length_le_of_startsWith next
    refine ⟨⟨?_, ?_, hs.groups⟩, Nat.le_add_right _ _⟩
    · rw [← hs.split]
      simp [Progress.forward]
    · simp only [Progress.forward, hs.offset, List.length_append, List.length_reverse,
        List.length_take]
      omega
  | anchor => exact ⟨hs, Nat.le_refl _⟩
  | ahead _ ih => exact ⟨⟨hs.split, hs.offset, (ih hs).1.groups⟩, Nat.le_refl _⟩
  | notAhead | notBehind => exact ⟨hs, Nat.le_refl _⟩
  | @behind width p s t u back _ ih =>
    obtain ⟨ht, _⟩ := hs.back back
    exact ⟨⟨hs.split, hs.offset, (ih ht).1.groups⟩, Nat.le_refl _⟩

/-! ## What groups hold -/

/-- The capturing groups of a pattern, with the patterns inside them. -/
def Pattern.bodies : Pattern → List (Nat × Pattern)
  | .empty | .one _ | .backref _ _ | .anchor _ => []
  | .seq p q | .alt p q | .ifGroup _ p q => p.bodies ++ q.bodies
  | .times _ _ _ p | .atomic p | .ahead _ p | .behind _ _ p => p.bodies
  | .group i p => (i, p) :: p.bodies

/-- **Every group holds the text of a match of its own pattern**, unless it held its text before. -/
theorem Pattern.Reaches.captured {text : List Char} {p : Pattern} {s t : Progress}
    (h : p.Reaches s t) (hs : s.Within text) :
    ∀ e ∈ t.groups, e ∈ s.groups ∨ ∃ q a b, (e.1, q) ∈ p.bodies ∧ a.Within text ∧ q.Reaches a b ∧
      e.2.start = a.offset ∧ e.2.stop = b.offset := by
  induction h with
  | empty | done | one | backref | anchor | notAhead | notBehind => exact fun e he => Or.inl he
  | seq first _ ih₁ ih₂ =>
    intro e he
    rcases ih₂ (first.within hs).1 e he with he | ⟨q, a, b, hq, hrest⟩
    · rcases ih₁ hs e he with he | ⟨q, a, b, hq, hrest⟩
      · exact Or.inl he
      · exact Or.inr ⟨q, a, b, List.mem_append_left _ hq, hrest⟩
    · exact Or.inr ⟨q, a, b, List.mem_append_right _ hq, hrest⟩
  | left _ ih | ifSet _ ih =>
    intro e he
    rcases ih hs e he with he | ⟨q, a, b, hq, hrest⟩
    · exact Or.inl he
    · exact Or.inr ⟨q, a, b, List.mem_append_left _ hq, hrest⟩
  | right _ ih | ifUnset _ ih =>
    intro e he
    rcases ih hs e he with he | ⟨q, a, b, hq, hrest⟩
    · exact Or.inl he
    · exact Or.inr ⟨q, a, b, List.mem_append_right _ hq, hrest⟩
  | copy _ first _ ih₁ ih₂ =>
    intro e he
    rcases ih₂ (first.within hs).1 e he with he | hbody
    · exact ih₁ hs e he
    · exact Or.inr hbody
  | @group i p s t way ih =>
    intro e he
    rcases List.mem_cons.mp he with rfl | he
    · exact Or.inr ⟨p, s, t, List.mem_cons_self, hs, way, rfl, rfl⟩
    · rcases ih hs e he with he | ⟨q, a, b, hq, hrest⟩
      · exact Or.inl he
      · exact Or.inr ⟨q, a, b, List.mem_cons_of_mem _ hq, hrest⟩
  | atomic _ ih | ahead _ ih => exact ih hs
  | @behind width p s t u back _ ih =>
    obtain ⟨ht, hgroups⟩ := hs.back back
    intro e he
    rw [← hgroups]
    exact ih ht e he

end Highlight
