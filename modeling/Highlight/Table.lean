/-!
# Tables

A table gives a value to each of its keys and keeps the keys in the order in which they were first
put in.
-/

namespace Highlight

/-- The entries of a table, each key once. -/
abbrev Table (α : Type) := List (String × α)

namespace Table

variable {α : Type}

/-- The table with `value` under `key`: in place of the value there, else at the end. -/
def put (key : String) (value : α) : Table α → Table α
  | [] => [(key, value)]
  | (k, v) :: rest => if k = key then (key, value) :: rest else (k, v) :: put key value rest

/-- The value under a key. -/
def get? (key : String) : Table α → Option α
  | [] => none
  | (k, v) :: rest => if k = key then some v else get? key rest

/-- The keys in their order. -/
def keys (t : Table α) : List String := t.map (·.1)

@[simp] theorem get?_put_self (t : Table α) (key : String) (value : α) :
    get? key (put key value t) = some value := by
  induction t with
  | nil => simp [put, get?]
  | cons e rest ih =>
    obtain ⟨k, v⟩ := e
    by_cases h : k = key <;> simp [put, get?, h, ih]

theorem get?_put_of_ne (t : Table α) {key other : String} (value : α) (h : key ≠ other) :
    get? other (put key value t) = get? other t := by
  induction t with
  | nil => simp [put, get?, h]
  | cons e rest ih =>
    obtain ⟨k, v⟩ := e
    by_cases hk : k = key
    · subst hk
      simp [put, get?, h]
    · by_cases ho : k = other
      · subst ho
        simp [put, get?, hk]
      · simp [put, get?, hk, ho, ih]

theorem get?_filter_self (key : String) : ∀ t : Table α, get? key (t.filter (·.1 ≠ key)) = none
  | [] => rfl
  | (k, v) :: rest => by
    have ih := get?_filter_self key rest
    by_cases h : k = key
    · rw [List.filter_cons_of_neg (by simp [h]), ih]
    · rw [List.filter_cons_of_pos (by simp [h]), get?, if_neg h, ih]

theorem get?_filter_of_ne {key other : String} (h : key ≠ other) : ∀ t : Table α,
    get? other (t.filter (·.1 ≠ key)) = get? other t
  | [] => rfl
  | (k, v) :: rest => by
    have ih := get?_filter_of_ne h rest
    by_cases hk : k = key
    · rw [List.filter_cons_of_neg (by simp [hk]), ih, get?, if_neg (hk ▸ h)]
    · rw [List.filter_cons_of_pos (by simp [hk]), get?, get?, ih]

/-- A value under several keys at once. -/
theorem get?_foldl_put {β : Type} (f : β → String) (value : α) (key : String) :
    ∀ (l : List β) (t : Table α), get? key (l.foldl (fun t b => t.put (f b) value) t) =
      if key ∈ l.map f then some value else get? key t
  | [], _ => rfl
  | b :: l, t => by
    rw [List.foldl_cons, get?_foldl_put f value key l, List.map_cons]
    by_cases hl : key ∈ l.map f
    · rw [if_pos hl, if_pos (List.mem_cons_of_mem _ hl)]
    · rw [if_neg hl]
      by_cases hb : f b = key
      · rw [hb, get?_put_self, if_pos List.mem_cons_self]
      · rw [get?_put_of_ne t value hb, if_neg]
        exact fun h => (List.mem_cons.mp h).elim (fun heq => hb heq.symm) hl

theorem keys_put (t : Table α) (key : String) (value : α) :
    keys (put key value t) = if key ∈ keys t then keys t else keys t ++ [key] := by
  induction t with
  | nil => simp [put, keys]
  | cons e rest ih =>
    obtain ⟨k, v⟩ := e
    by_cases h : k = key
    · simp [put, keys, h]
    · have hput : keys (put key value ((k, v) :: rest)) = k :: keys (put key value rest) := by
        simp [put, keys, h]
      have hkeys : keys ((k, v) :: rest) = k :: keys rest := rfl
      rw [hput, ih, hkeys]
      by_cases hmem : key ∈ keys rest
      · simp [hmem]
      · simp [hmem, Ne.symm h]

theorem nodup_keys_put {t : Table α} (h : (keys t).Nodup) (key : String) (value : α) :
    (keys (put key value t)).Nodup := by
  rw [keys_put]
  split
  · exact h
  · next hnot =>
    refine List.nodup_append.mpr ⟨h, by simp, fun k hk k' hk' heq => hnot ?_⟩
    rw [List.mem_singleton.mp hk'] at heq
    exact heq ▸ hk

theorem mem_keys_iff {t : Table α} {key : String} : key ∈ keys t ↔ ∃ v, get? key t = some v := by
  induction t with
  | nil => simp [keys, get?]
  | cons e rest ih =>
    obtain ⟨k, v⟩ := e
    by_cases h : k = key
    · simp [keys, get?, h]
    · simp [get?, h, ← ih, keys, Ne.symm h]

end Table

end Highlight
