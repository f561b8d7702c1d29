import Highlight.Proofs.Pattern.Language

/-!
# The letters of a language

Of the language of a regular pattern two things can be computed from the pattern alone: which
characters its texts may start with (`canStart`), and which they may hold at all (`canHold`).  Both
may name a character too many where a pattern cannot match at all, and never one too few
(`canStart_of_matches`, `canHold_of_matches`).

For the patterns that grammars are mostly made of, single characters and runs of a class, the whole
language is plain (`matches_char`, `matches_many`).
-/

namespace Highlight

namespace Pattern

/-! ## Characters and runs -/

theorem matches_char {c : Char} {w : List Char} : (char c).Matches w ↔ w = [c] := by
  show (∃ d, w = [d] ∧ (CharClass.single c).contains d = true) ↔ w = [c]
  simp only [CharClass.contains_single, beq_iff_eq]
  constructor
  · rintro ⟨d, rfl, rfl⟩
    rfl
  · rintro rfl
    exact ⟨c, rfl, rfl⟩

/-- Copies of a class make up a text of characters of the class. -/
theorem flatten_of_one {chars : CharClass} : ∀ {ws : List (List Char)},
    (∀ u ∈ ws, (one chars).Matches u) →
      ws.flatten.length = ws.length ∧ ∀ c ∈ ws.flatten, chars.contains c = true
  | [], _ => ⟨rfl, fun _ hc => absurd hc List.not_mem_nil⟩
  | u :: ws, h => by
    obtain ⟨c, rfl, hc⟩ := h u List.mem_cons_self
    obtain ⟨hlength, hall⟩ := flatten_of_one fun v hv => h v (List.mem_cons_of_mem _ hv)
    refine ⟨by simp [hlength], fun d hd => ?_⟩
    rcases List.mem_cons.mp hd with rfl | hd
    · exact hc
    · exact hall d hd

/-- **The runs of a class** are the texts of its characters that are long enough. -/
theorem matches_many {lo : Nat} {chars : CharClass} {w : List Char} :
    (many lo chars).Matches w ↔ lo ≤ w.length ∧ ∀ c ∈ w, chars.contains c = true := by
  constructor
  · rintro ⟨ws, rfl, hlo, _, hws⟩
    obtain ⟨hlength, hall⟩ := flatten_of_one hws
    exact ⟨hlength ▸ hlo, hall⟩
  · rintro ⟨hlo, hall⟩
    refine ⟨w.map ([·]), ?_, by simpa using hlo, by simp, ?_⟩
    · rw [← List.flatMap_def, List.flatMap_singleton']
    · intro u hu
      obtain ⟨c, hc, rfl⟩ := List.mem_map.mp hu
      exact ⟨c, rfl, hall c hc⟩

theorem matches_many_singleton {chars : CharClass} {c : Char} :
    (many 1 chars).Matches [c] ↔ chars.contains c = true := by
  rw [matches_many]
  simp

/-! ## Which characters a text may start with -/

/-- Whether a text of the language may start with a character. -/
def canStart : Pattern → Char → Bool
  | .one chars, c => chars.contains c
  | .seq p q, c => p.canStart c || (p.matchesEmpty && q.canStart c)
  | .alt p q, c => p.canStart c || q.canStart c
  | .times _ _ _ p, c | .group _ p, c => p.canStart c
  | .empty, _ | .backref _ _, _ | .atomic _, _ | .ifGroup _ _ _, _ | .anchor _, _ | .ahead _ _, _
  | .behind _ _ _, _ => false

/-- The first character of a list of texts is the first of one of them. -/
theorem exists_cons_of_flatten {c : Char} {w : List Char} : ∀ {ws : List (List Char)},
    ws.flatten = c :: w → ∃ u, c :: u ∈ ws
  | [], h => absurd h (List.cons_ne_nil c w).symm
  | [] :: ws, h => by
    have hrest : ws.flatten = c :: w := h
    obtain ⟨u, hu⟩ := exists_cons_of_flatten hrest
    exact ⟨u, List.mem_cons_of_mem _ hu⟩
  | (d :: v) :: ws, h => by
    obtain ⟨rfl, _⟩ := List.cons.inj h
    exact ⟨v, List.mem_cons_self⟩

theorem canStart_of_matches {p : Pattern} (hp : p.isRegular = true) {c : Char} :
    ∀ {w : List Char}, p.Matches (c :: w) → p.canStart c = true := by
  induction p with
  | empty => exact fun h => absurd h (List.cons_ne_nil _ _)
  | one chars =>
    rintro w ⟨d, hw, hd⟩
    obtain ⟨rfl, _⟩ := List.cons.inj hw
    exact hd
  | seq p q ihp ihq =>
    rw [isRegular, Bool.and_eq_true] at hp
    rintro w ⟨u, v, hw, hu, hv⟩
    rw [canStart, Bool.or_eq_true, Bool.and_eq_true]
    cases u with
    | nil =>
      obtain rfl : v = c :: w := hw.symm
      exact Or.inr ⟨(matchesEmpty_iff hp.1).mpr hu, ihq hp.2 hv⟩
    | cons d u =>
      obtain ⟨rfl, _⟩ := List.cons.inj hw
      exact Or.inl (ihp hp.1 hu)
  | alt p q ihp ihq =>
    rw [isRegular, Bool.and_eq_true] at hp
    rintro w (h | h)
    · rw [canStart, ihp hp.1 h, Bool.true_or]
    · rw [canStart, ihq hp.2 h, Bool.or_true]
  | times lo hi greedy p ih =>
    rintro w ⟨ws, hw, _, _, hws⟩
    obtain ⟨u, hu⟩ := exists_cons_of_flatten hw.symm
    exact ih hp (hws _ hu)
  | group i p ih => exact ih hp
  | backref | atomic | ifGroup | anchor | ahead | behind => exact absurd hp (by simp [isRegular])

/-! ## Which characters a text may hold -/

/-- Whether a text of the language may hold a character. -/
def canHold : Pattern → Char → Bool
  | .one chars, c => chars.contains c
  | .seq p q, c | .alt p q, c => p.canHold c || q.canHold c
  | .times _ _ _ p, c | .group _ p, c => p.canHold c
  | .empty, _ | .backref _ _, _ | .atomic _, _ | .ifGroup _ _ _, _ | .anchor _, _ | .ahead _ _, _
  | .behind _ _ _, _ => false

theorem canHold_of_matches {p : Pattern} {c : Char} :
    ∀ {w : List Char}, p.Matches w → c ∈ w → p.canHold c = true := by
  induction p with
  | empty =>
    rintro w rfl hc
    exact absurd hc List.not_mem_nil
  | one chars =>
    rintro w ⟨d, rfl, hd⟩ hc
    rw [List.mem_singleton.mp hc]
    exact hd
  | seq p q ihp ihq =>
    rintro w ⟨u, v, rfl, hu, hv⟩ hc
    rw [canHold, Bool.or_eq_true]
    rcases List.mem_append.mp hc with hc | hc
    · exact Or.inl (ihp hu hc)
    · exact Or.inr (ihq hv hc)
  | alt p q ihp ihq =>
    rintro w (h | h) hc
    · rw [canHold, ihp h hc, Bool.true_or]
    · rw [canHold, ihq h hc, Bool.or_true]
  | times lo hi greedy p ih =>
    rintro w ⟨ws, rfl, _, _, hws⟩ hc
    obtain ⟨u, hu, hcu⟩ := List.mem_flatten.mp hc
    exact ih (hws u hu) hcu
  | group i p ih => exact ih
  | backref | atomic | ifGroup | anchor | ahead | behind => exact fun h => absurd h id

end Pattern

end Highlight
