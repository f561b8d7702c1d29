import Highlight.Proofs.Pattern.Reach

/-!
# The language of a regular pattern

A pattern without references to groups, anchors, lookarounds and atomic groups sees only the
characters that it matches, and leaves every way through it open.  It has a language, the texts it
matches in any surroundings (`Pattern.Matches`).
Backtracking, with its order of preference and its rule against empty copies, decides whether a text
of the language comes next:

* a way through the pattern spells a text of the language (`Reaches.spells`);
* where a text of the language comes next and the continuation accepts what follows, `run` finds a
  way (`run_isSome`).

So a regular pattern matches the empty text exactly if that is in its language (`matchesEmpty_iff`),
and one that does not matches no empty stretch anywhere (`Matches.ne_nil`).
-/

namespace Highlight

namespace Pattern

/-! ## Regular patterns -/

/-- Whether a pattern is free of back references, conditions on groups, atomic groups, anchors and
lookarounds. -/
def isRegular : Pattern → Bool
  | .empty | .one _ => true
  | .seq p q | .alt p q => p.isRegular && q.isRegular
  | .times _ _ _ p | .group _ p => p.isRegular
  | .backref _ _ | .atomic _ | .ifGroup _ _ _ | .anchor _ | .ahead _ _ | .behind _ _ _ => false

/-- A text belongs to the language of a regular pattern. -/
def Matches : Pattern → List Char → Prop
  | .empty, w => w = []
  | .one chars, w => ∃ c, w = [c] ∧ chars.contains c = true
  | .seq p q, w => ∃ u v, w = u ++ v ∧ p.Matches u ∧ q.Matches v
  | .alt p q, w => p.Matches w ∨ q.Matches w
  | .times lo hi _ p, w =>
    ∃ ws : List (List Char), w = ws.flatten ∧ lo ≤ ws.length ∧ (∀ m ∈ hi, ws.length ≤ max lo m) ∧
      ∀ u ∈ ws, p.Matches u
  | .group _ p, w => p.Matches w
  | .backref _ _, _ | .atomic _, _ | .ifGroup _ _ _, _ | .anchor _, _ | .ahead _ _, _
  | .behind _ _ _, _ => False

/-! ## Ways spell texts of the language -/

/-- **A way through a regular pattern spells a text of its language.** -/
theorem Reaches.spells {p : Pattern} {s t : Progress} (h : p.Reaches s t) (hp : p.isRegular = true) :
    ∃ w, p.Matches w ∧ s.rest = w ++ t.rest ∧ t.offset = s.offset + w.length := by
  induction h with
  | empty => exact ⟨[], rfl, rfl, rfl⟩
  | @one chars s c rest next mem => exact ⟨[c], ⟨c, rfl, mem⟩, next, rfl⟩
  | seq _ _ ih₁ ih₂ =>
    rw [isRegular, Bool.and_eq_true] at hp
    obtain ⟨u, hu, hsu, hou⟩ := ih₁ hp.1
    obtain ⟨v, hv, htv, hov⟩ := ih₂ hp.2
    refine ⟨u ++ v, ⟨u, v, rfl, hu, hv⟩, ?_, ?_⟩
    · rw [hsu, htv, List.append_assoc]
    · rw [hov, hou, List.length_append, Nat.add_assoc]
  | left _ ih =>
    rw [isRegular, Bool.and_eq_true] at hp
    obtain ⟨w, hw, hrest⟩ := ih hp.1
    exact ⟨w, Or.inl hw, hrest⟩
  | right _ ih =>
    rw [isRegular, Bool.and_eq_true] at hp
    obtain ⟨w, hw, hrest⟩ := ih hp.2
    exact ⟨w, Or.inr hw, hrest⟩
  | done => exact ⟨[], ⟨[], rfl, Nat.le_refl _, fun _ _ => Nat.zero_le _, by simp⟩, rfl, rfl⟩
  | @copy lo hi greedy p s t u allowed _ _ ih₁ ih₂ =>
    obtain ⟨v, hv, hsv, hov⟩ := ih₁ hp
    obtain ⟨w, ⟨ws, rfl, hlo, hhi, hws⟩, htw, how⟩ := ih₂ hp
    refine ⟨v ++ ws.flatten, ⟨v :: ws, rfl, ?_, ?_, ?_⟩, ?_, ?_⟩
    · rw [List.length_cons]
      omega
    · intro m hm
      have := hhi (m - 1) (Option.map_eq_some_iff.mpr ⟨m, hm, rfl⟩)
      have : 0 < lo ∨ 0 < m := by
        rcases allowed with h | h
        · exact Or.inl h
        · exact Or.inr (Nat.pos_of_ne_zero fun h0 => h (h0 ▸ hm))
      rw [List.length_cons]
      omega
    · intro x hx
      rcases List.mem_cons.mp hx with rfl | hx
      · exact hv
      · exact hws x hx
    · rw [hsv, htw, List.append_assoc]
    · rw [how, hov, List.length_append, Nat.add_assoc]
  | group _ ih => exact ih hp
  | backref | atomic | ifSet | ifUnset | anchor | ahead | notAhead | behind | notBehind =>
    exact absurd hp (by simp [isRegular])

/-! ## Backtracking finds the texts of the language -/

/-- A place after the text `w`, with `rest` still to come. -/
def After (s : Progress) (w rest : List Char) (t : Progress) : Prop :=
  t.rest = rest ∧ t.offset = s.offset + w.length

theorem isSome_orElse {α : Type} {o o' : Option α} (h : o.isSome = true ∨ o'.isSome = true) :
    (o <|> o').isSome = true := by
  rw [Option.orElse_eq_orElse, Option.orElse_eq_or, Option.isSome_or, Bool.or_eq_true]
  exact h

/-- What `run_isSome` says of a search in place of a pattern and of the texts it is known to accept.
-/
def Finds (body : Progress → Search → Option Progress) (accepted : List Char → Prop) : Prop :=
  ∀ {w rest : List Char} {s : Progress} {k : Search}, accepted w → s.rest = w ++ rest →
    (∀ t, After s w rest t → (k t).isSome = true) → (body s k).isSome = true

theorem iterate_isSome {body : Progress → Search → Option Progress} {accepted : List Char → Prop}
    (hbody : Finds body accepted) : ∀ {ws : List (List Char)} {rest : List Char} {s : Progress}
    {k : Search}, (∀ u ∈ ws, accepted u) → s.rest = ws.flatten ++ rest →
    (∀ t, After s ws.flatten rest t → (k t).isSome = true) → (iterate body ws.length s k).isSome = true
  | [], rest, s, k, _, hs, hk => hk s ⟨hs, rfl⟩
  | w :: ws, rest, s, k, hws, hs, hk => by
    rw [List.flatten_cons, List.append_assoc] at hs
    refine hbody (hws w List.mem_cons_self) hs fun t ht => ?_
    refine iterate_isSome hbody (fun u hu => hws u (List.mem_cons_of_mem _ hu)) ht.1 fun v hv => ?_
    refine hk v ⟨hv.1, ?_⟩
    rw [hv.2, ht.2, List.flatten_cons, List.length_append, Nat.add_assoc]

/-- The copies are not empty, so that no copy starts where the one before did. -/
theorem extend_isSome {body : Progress → Search → Option Progress} {accepted : List Char → Prop}
    {greedy : Bool} (hbody : Finds body accepted) : ∀ {n : Nat} {last : Option Nat}
    {ws : List (List Char)} {rest : List Char} {s : Progress} {k : Search},
    (∀ u ∈ ws, accepted u ∧ u ≠ []) → ws.length ≤ n → last ≠ some s.offset →
    s.rest = ws.flatten ++ rest → (∀ t, After s ws.flatten rest t → (k t).isSome = true) →
    (extend body greedy n last s k).isSome = true
  | 0, last, ws, rest, s, k, _, hn, _, hs, hk => by
    obtain rfl : ws = [] := List.length_eq_zero_iff.mp (Nat.le_zero.mp hn)
    exact hk s ⟨hs, rfl⟩
  | n + 1, last, ws, rest, s, k, hws, hn, hlast, hs, hk => by
    rw [extend, if_neg hlast]
    cases ws with
    | nil =>
      have hstop : (k s).isSome = true := hk s ⟨hs, rfl⟩
      split
      · exact isSome_orElse (Or.inr hstop)
      · exact isSome_orElse (Or.inl hstop)
    | cons w ws =>
      obtain ⟨hw, hne⟩ := hws w List.mem_cons_self
      have hcopy : (body s fun t => extend body greedy n (some s.offset) t k).isSome = true := by
        rw [List.flatten_cons, List.append_assoc] at hs
        refine hbody hw hs fun t ht => ?_
        have hpos : 0 < w.length := List.length_pos_iff.mpr hne
        have hmoved : some s.offset ≠ some t.offset := by
          rw [ht.2]
          intro h
          have := Option.some.inj h
          omega
        refine extend_isSome hbody (fun u hu => hws u (List.mem_cons_of_mem _ hu))
          (Nat.le_of_succ_le_succ hn) hmoved ht.1 fun v hv => hk v ⟨hv.1, ?_⟩
        rw [hv.2, ht.2, List.flatten_cons, List.length_append, Nat.add_assoc]
      split
      · exact isSome_orElse (Or.inl hcopy)
      · exact isSome_orElse (Or.inr hcopy)

theorem length_le_length_flatten {α : Type} : ∀ {ws : List (List α)}, (∀ u ∈ ws, u ≠ []) →
    ws.length ≤ ws.flatten.length
  | [], _ => Nat.le_refl _
  | w :: ws, h => by
    have hw : 0 < w.length := List.length_pos_iff.mpr (h w List.mem_cons_self)
    have := length_le_length_flatten fun u hu => h u (List.mem_cons_of_mem w hu)
    rw [List.flatten_cons, List.length_append, List.length_cons]
    omega

/-- Repetition finds the copies that a text is made of, without the empty ones among those that need
not be there. -/
theorem times_isSome {lo : Nat} {hi : Option Nat} {greedy : Bool} {p : Pattern}
    (hp : Finds p.run p.Matches) :
    Finds (times lo hi greedy p).run (times lo hi greedy p).Matches := by
  intro w rest s k hw hs hk
  obtain ⟨ws, rfl, hlo, hhi, hws⟩ := hw
  -- the copies that must be there come first, and of the others the empty ones are left out
  have hcopies : ∀ u ∈ (ws.drop lo).filter (· ≠ []), p.Matches u ∧ u ≠ [] := by
    intro u hu
    obtain ⟨hmem, hne⟩ := List.mem_filter.mp hu
    exact ⟨hws u (List.mem_of_mem_drop hmem), by simpa using hne⟩
  have hflat : ((ws.drop lo).filter (· ≠ [])).flatten = (ws.drop lo).flatten :=
    List.flatten_filter_ne_nil
  have hsplit : ws.flatten = (ws.take lo).flatten ++ (ws.drop lo).flatten := by
    rw [← List.flatten_append, List.take_append_drop]
  have hlength : (ws.take lo).length = lo := List.length_take_of_le hlo
  rw [hsplit, List.append_assoc] at hs
  rw [run, ← hlength]
  refine iterate_isSome hp (fun u hu => hws u (List.mem_of_mem_take hu)) hs fun t ht => ?_
  have hbound : ((ws.drop lo).filter (· ≠ [])).length ≤ furtherCopies lo hi t := by
    have hle := length_le_length_flatten fun u hu => (hcopies u hu).2
    have hdrop : ((ws.drop lo).filter (· ≠ [])).length ≤ ws.length - lo := by
      rw [← List.length_drop]
      exact List.length_filter_le _ _
    rw [hflat] at hle
    have hrest : t.rest.length = (ws.drop lo).flatten.length + rest.length := by
      rw [ht.1, List.length_append]
    cases hi with
    | none =>
      rw [furtherCopies]
      omega
    | some m =>
      have := hhi m rfl
      rw [furtherCopies]
      omega
  have hrest : t.rest = ((ws.drop lo).filter (· ≠ [])).flatten ++ rest := by
    rw [hflat, ht.1]
  rw [hlength]
  refine extend_isSome hp hcopies hbound (by simp) hrest fun x hx => hk x ⟨hx.1, ?_⟩
  rw [hx.2, ht.2, hflat, hsplit, List.length_append, Nat.add_assoc]

/-- **Where a text of the language comes next and the continuation accepts what follows it,
backtracking finds a way.** -/
theorem run_isSome (p : Pattern) (hp : p.isRegular = true) : Finds p.run p.Matches := by
  induction p with
  | empty =>
    intro w rest s k hw hs hk
    obtain rfl : w = [] := hw
    exact hk s ⟨hs, rfl⟩
  | one chars =>
    intro w rest s k hw hs hk
    obtain ⟨c, rfl, hc⟩ := hw
    have hrest : s.rest = c :: rest := hs
    simp only [run, hrest, hc, if_true]
    exact hk _ ⟨rfl, rfl⟩
  | seq p q ihp ihq =>
    rw [isRegular, Bool.and_eq_true] at hp
    intro w rest s k hw hs hk
    obtain ⟨u, v, rfl, hu, hv⟩ := hw
    rw [List.append_assoc] at hs
    refine ihp hp.1 hu hs fun t ht => ihq hp.2 hv ht.1 fun x hx => hk x ⟨hx.1, ?_⟩
    rw [hx.2, ht.2, List.length_append, Nat.add_assoc]
  | alt p q ihp ihq =>
    rw [isRegular, Bool.and_eq_true] at hp
    intro w rest s k hw hs hk
    rcases hw with hw | hw
    · exact isSome_orElse (Or.inl (ihp hp.1 hw hs hk))
    · exact isSome_orElse (Or.inr (ihq hp.2 hw hs hk))
  | times lo hi greedy p ih => exact times_isSome (ih hp)
  | group i p ih =>
    intro w rest s k hw hs hk
    exact ih hp hw hs fun t ht => hk (t.record i s) ht
  | backref | atomic | ifGroup | anchor | ahead | behind => exact absurd hp (by simp [isRegular])

/-! ## The empty text -/

/-- **A regular pattern matches the empty text exactly if its language holds it.** -/
theorem matchesEmpty_iff {p : Pattern} (hp : p.isRegular = true) :
    p.matchesEmpty = true ↔ p.Matches [] := by
  rw [matchesEmpty, matchStart, Option.isSome_map]
  constructor
  · intro h
    obtain ⟨r, hr⟩ := Option.isSome_iff_exists.mp h
    obtain ⟨t, hreach, _⟩ := run_reaches p hr
    obtain ⟨w, hw, hrest, _⟩ := hreach.spells hp
    obtain ⟨rfl, _⟩ := List.append_eq_nil_iff.mp hrest.symm
    exact hw
  · intro hw
    have hnext : (Progress.start []).rest = [] ++ [] := rfl
    exact run_isSome p hp hw hnext fun _ _ => rfl

/-- A pattern that does not match the empty text matches none anywhere. -/
theorem Matches.ne_nil {p : Pattern} {w : List Char} (hw : p.Matches w) (hp : p.isRegular = true)
    (hne : p.matchesEmpty = false) : w ≠ [] := by
  rintro rfl
  rw [(matchesEmpty_iff hp).mpr hw] at hne
  exact absurd hne (by simp)

/-- A way through such a pattern moves on. -/
theorem Reaches.lt {p : Pattern} {s t : Progress} (h : p.Reaches s t) (hp : p.isRegular = true)
    (hne : p.matchesEmpty = false) : s.offset < t.offset := by
  obtain ⟨w, hw, _, hoffset⟩ := h.spells hp
  have hpos : 0 < w.length := List.length_pos_iff.mpr (hw.ne_nil hp hne)
  omega

end Pattern

end Highlight
