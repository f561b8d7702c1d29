import Highlight.Data.Value
import Highlight.Proofs.Result

/-!
# Which values have a text

A value is shown exactly if the stack has room for the depth of its nesting and every integer in it has at
most `digitLimit` digits (`exists_shown_iff`), by induction on the value, its items and its entries.  On
its own a string or a moment always has a text, so that there is one more way to have one
(`exists_text_iff`).
-/

namespace Highlight.Value

/-! ## Depth and size -/

mutual

/-- The number of calls in each other that it takes to show a value. -/
def depth : Value → Nat
  | .null | .bool _ | .integer _ | .decimal _ | .string _ => 1
  | .moment m => m.nesting
  | .array items => depthItems items + 1
  | .table entries => depthEntries entries + 1

/-- The greatest depth of an item. -/
def depthItems : List Value → Nat
  | [] => 0
  | v :: vs => max v.depth (depthItems vs)

/-- The greatest depth of an entry. -/
def depthEntries : List (String × Value) → Nat
  | [] => 0
  | (_, v) :: rest => max v.depth (depthEntries rest)

end

mutual

/-- Whether no integer in a value is too large. -/
def isBounded : Value → Bool
  | .null | .bool _ | .decimal _ | .string _ | .moment _ => true
  | .integer n => n.natAbs < tooLarge
  | .array items => areBounded items
  | .table entries => entriesBounded entries

/-- Whether no integer in one of the items is too large. -/
def areBounded : List Value → Bool
  | [] => true
  | v :: vs => v.isBounded && areBounded vs

/-- Whether no integer in one of the entries is too large. -/
def entriesBounded : List (String × Value) → Bool
  | [] => true
  | (_, v) :: rest => v.isBounded && entriesBounded rest

end

theorem depth_pos (v : Value) : 0 < v.depth := by
  cases v with
  | null | bool | integer | decimal | string => exact Nat.one_pos
  | array | table => exact Nat.succ_pos _
  | moment m =>
    show 0 < m.nesting
    unfold Moment.nesting
    split
    · exact Nat.one_pos
    · exact Nat.one_pos
    · exact Nat.one_pos
    · split <;> omega

/-! ## Showing -/

theorem exists_integerText_iff {n : Int} : (∃ s, integerText n = .ok s) ↔ n.natAbs < tooLarge := by
  unfold integerText
  split
  · next hlarge =>
    refine iff_of_false ?_ (Nat.not_lt.mpr hlarge)
    rintro ⟨_, h⟩
    cases h
  · next hsmall => exact iff_of_true ⟨_, rfl⟩ (Nat.not_le.mp hsmall)

/-- An integer that is too large has no text in any way. -/
theorem text_of_large {n : Int} (h : tooLarge ≤ n.natAbs) (room : Nat) :
    (integer n).shown (room + 1) = .error .largeInteger ∧
      (integer n).text (room + 1) = .error .largeInteger := by
  have hdigits : integerText n = .error .largeInteger := if_pos h
  exact ⟨hdigits, hdigits⟩

theorem exists_keyShown_iff {room : Nat} {key : String} : (∃ s, keyShown room key = .ok s) ↔ 0 < room := by
  unfold keyShown
  split
  · next hzero =>
    refine iff_of_false ?_ (by omega)
    rintro ⟨_, h⟩
    cases h
  · next hpos => exact iff_of_true ⟨_, rfl⟩ (Nat.pos_of_ne_zero hpos)

/-- A computation in two steps succeeds if both do, where the second does not depend on the first. -/
theorem exists_bind_iff {α β γ : Type} {x : Except Crash α} {y : Except Crash β} {f : α → β → γ} :
    (∃ c, (x.bind fun a => y.bind fun b => .ok (f a b)) = .ok c) ↔ (∃ a, x = .ok a) ∧ ∃ b, y = .ok b := by
  simp only [Except.bind_eq_ok]
  constructor
  · rintro ⟨c, a, ha, b, hb, -⟩
    exact ⟨⟨a, ha⟩, b, hb⟩
  · rintro ⟨⟨a, ha⟩, b, hb⟩
    exact ⟨_, a, ha, b, hb, rfl⟩

theorem exists_map_iff {α β : Type} {x : Except Crash α} {f : α → β} :
    (∃ b, (x.bind fun a => .ok (f a)) = .ok b) ↔ ∃ a, x = .ok a := by
  simp only [Except.bind_eq_ok]
  constructor
  · rintro ⟨_, a, ha, -⟩
    exact ⟨a, ha⟩
  · rintro ⟨a, ha⟩
    exact ⟨_, a, ha, rfl⟩

/-- An entry is shown if its key and its value are. -/
theorem exists_shownEntries_cons_iff {k : String} {v : Value} {rest : List (String × Value)} {room : Nat} :
    (∃ texts, shownEntries room ((k, v) :: rest) = .ok texts) ↔
      (∃ key, keyShown room k = .ok key) ∧ (∃ s, v.shown room = .ok s) ∧
        ∃ texts, shownEntries room rest = .ok texts := by
  show (∃ texts, ((keyShown room k).bind fun key => (v.shown room).bind fun s =>
    (shownEntries room rest).bind fun texts => .ok ((key ++ ": " ++ s) :: texts)) = .ok texts) ↔ _
  simp only [Except.bind_eq_ok]
  constructor
  · rintro ⟨_, key, hkey, s, hs, texts, htexts, -⟩
    exact ⟨⟨key, hkey⟩, ⟨s, hs⟩, texts, htexts⟩
  · rintro ⟨⟨key, hkey⟩, ⟨s, hs⟩, texts, htexts⟩
    exact ⟨_, key, hkey, s, hs, texts, htexts, rfl⟩

mutual

/-- **A value is shown exactly if there is room for its depth and its integers are not too large.** -/
theorem exists_shown_iff : ∀ (v : Value) (room : Nat),
    (∃ s, v.shown room = .ok s) ↔ v.depth ≤ room ∧ v.isBounded = true
  | v, 0 => by
    refine iff_of_false ?_ fun h => absurd (depth_pos v) (by omega)
    rintro ⟨_, h⟩
    rw [shown] at h
    cases h
  | .null, room + 1 | .decimal _, room + 1 | .string _, room + 1 =>
    iff_of_true ⟨_, rfl⟩ ⟨Nat.succ_pos room, rfl⟩
  | .bool b, room + 1 => by cases b <;> exact iff_of_true ⟨_, rfl⟩ ⟨Nat.succ_pos room, rfl⟩
  | .integer n, room + 1 => by
    show (∃ s, integerText n = .ok s) ↔ 1 ≤ room + 1 ∧ decide (n.natAbs < tooLarge) = true
    rw [exists_integerText_iff, decide_eq_true_iff]
    exact ⟨fun h => ⟨Nat.succ_pos room, h⟩, And.right⟩
  | .moment m, room + 1 => by
    show (∃ s, (if m.nesting ≤ room + 1 then Except.ok m.call else .error Crash.deepValue) = .ok s) ↔
      m.nesting ≤ room + 1 ∧ true = true
    split
    · next hfits => exact iff_of_true ⟨_, rfl⟩ ⟨hfits, rfl⟩
    · next hdeep =>
      refine iff_of_false ?_ fun h => hdeep h.1
      rintro ⟨_, h⟩
      cases h
  | .array items, room + 1 =>
    exists_map_iff.trans ((exists_shownItems_iff items room).trans
      (and_congr_left' Nat.succ_le_succ_iff.symm))
  | .table entries, room + 1 =>
    exists_map_iff.trans ((exists_shownEntries_iff entries room).trans
      (and_congr_left' Nat.succ_le_succ_iff.symm))

theorem exists_shownItems_iff : ∀ (vs : List Value) (room : Nat),
    (∃ texts, shownItems room vs = .ok texts) ↔ depthItems vs ≤ room ∧ areBounded vs = true
  | [], _ => iff_of_true ⟨_, rfl⟩ ⟨Nat.zero_le _, rfl⟩
  | v :: vs, room => by
    refine exists_bind_iff.trans ?_
    rw [exists_shown_iff v room, exists_shownItems_iff vs room, depthItems, areBounded, Nat.max_le,
      Bool.and_eq_true]
    exact and_and_and_comm

theorem exists_shownEntries_iff : ∀ (entries : List (String × Value)) (room : Nat),
    (∃ texts, shownEntries room entries = .ok texts) ↔
      depthEntries entries ≤ room ∧ entriesBounded entries = true
  | [], _ => iff_of_true ⟨_, rfl⟩ ⟨Nat.zero_le _, rfl⟩
  | (k, v) :: rest, room => by
    rw [exists_shownEntries_cons_iff, exists_keyShown_iff, exists_shown_iff v room,
      exists_shownEntries_iff rest room, depthEntries, entriesBounded, Nat.max_le, Bool.and_eq_true]
    -- the key takes no more room than the value does
    have hpos := depth_pos v
    constructor
    · rintro ⟨-, ⟨hv, hbounded⟩, hrest, hbounded'⟩
      exact ⟨⟨hv, hrest⟩, hbounded, hbounded'⟩
    · rintro ⟨⟨hv, hrest⟩, hbounded, hbounded'⟩
      exact ⟨by omega, ⟨hv, hbounded⟩, hrest, hbounded'⟩

end

/-! ## Texts -/

/-- Whether a value has a text on its own, where the stack has room for `room` calls. -/
inductive HasText (room : Nat) : Value → Prop
  | string (s : String) : HasText room (.string s)
  | moment (m : Moment) : HasText room (.moment m)
  | shown {v : Value} (hdepth : v.depth ≤ room) (hbounded : v.isBounded = true) : HasText room v

/-- **Which values have a text.** -/
theorem exists_text_iff {v : Value} {room : Nat} : (∃ s, v.text room = .ok s) ↔ HasText room v := by
  constructor
  · rintro ⟨s, h⟩
    cases v with
    | string s => exact .string s
    | moment m => exact .moment m
    | null | bool | integer | decimal | array | table =>
      obtain ⟨hdepth, hbounded⟩ := (exists_shown_iff _ room).mp ⟨s, h⟩
      exact .shown hdepth hbounded
  · rintro (s | m | ⟨hdepth, hbounded⟩)
    · exact ⟨s, rfl⟩
    · exact ⟨_, rfl⟩
    · cases v with
      | string s => exact ⟨s, rfl⟩
      | moment m => exact ⟨_, rfl⟩
      | null | bool | integer | decimal | array | table =>
        exact (exists_shown_iff _ room).mpr ⟨hdepth, hbounded⟩

/-- A value without a text crashes. -/
theorem exists_text_error_iff {v : Value} {room : Nat} :
    (∃ c, v.text room = .error c) ↔ ¬ HasText room v := by
  rw [← exists_text_iff]
  cases v.text room with
  | error c => simp
  | ok s => simp

end Highlight.Value
