/-!
# Results of computations that may fail

What it means for a computation in two steps to succeed or to fail, in terms of its steps, and for one that
is known in all cases (`eq_ok_iff_of_cases`, `eq_error_iff_of_cases`).
-/

namespace Highlight.Except

variable {ε α β : Type} {x : Except ε α}

theorem map_eq_ok {f : α → β} {b : β} : x.map f = .ok b ↔ ∃ a, x = .ok a ∧ f a = b := by
  cases x with
  | error e => simp [Except.map]
  | ok a => simp [Except.map]

theorem map_eq_error {f : α → β} {e : ε} : x.map f = .error e ↔ x = .error e := by
  cases x with
  | error e' => simp [Except.map]
  | ok a => simp [Except.map]

@[simp] theorem mapError_ok {ε' : Type} (f : ε → ε') (a : α) :
    (Except.ok a : Except ε α).mapError f = .ok a := rfl

@[simp] theorem mapError_error {ε' : Type} (f : ε → ε') (e : ε) :
    (Except.error e : Except ε α).mapError f = .error (f e) := rfl

theorem mapError_eq_ok {ε' : Type} {f : ε → ε'} {a : α} : x.mapError f = .ok a ↔ x = .ok a := by
  cases x with
  | error e => exact iff_of_false (fun h => by cases h) (fun h => by cases h)
  | ok b => exact ⟨fun h => by cases h; rfl, fun h => by cases h; rfl⟩

theorem mapError_eq_error {ε' : Type} {f : ε → ε'} {e : ε'} :
    x.mapError f = .error e ↔ ∃ e', x = .error e' ∧ f e' = e := by
  cases x with
  | error e' =>
    constructor
    · intro h
      exact ⟨e', rfl, Except.error.inj h⟩
    · rintro ⟨_, h, rfl⟩
      cases h
      rfl
  | ok a =>
    refine iff_of_false (fun h => by cases h) ?_
    rintro ⟨_, h, _⟩
    cases h

theorem bind_eq_ok {f : α → Except ε β} {b : β} :
    x.bind f = .ok b ↔ ∃ a, x = .ok a ∧ f a = .ok b := by
  cases x with
  | error e => simp [Except.bind]
  | ok a => simp [Except.bind]

theorem bind_eq_error {f : α → Except ε β} {e : ε} :
    x.bind f = .error e ↔ x = .error e ∨ ∃ a, x = .ok a ∧ f a = .error e := by
  cases x with
  | error e' => simp [Except.bind]
  | ok a => simp [Except.bind]

theorem bind_map {γ : Type} {f : α → β} {g : β → Except ε γ} :
    (x.map f).bind g = x.bind fun a => g (f a) := by
  cases x <;> rfl

section Cases

variable {P : α → Prop} {Q : ε → Prop} (hok : ∀ a, P a → x = .ok a) (herror : ∀ e, Q e → x = .error e)
  (hcases : (∃ a, P a) ∨ ∃ e, Q e)

include hok herror hcases

/-- What is enough for a success is needed for it, if all else is enough for a failure. -/
theorem eq_ok_iff_of_cases {a : α} : x = .ok a ↔ P a := by
  refine ⟨fun h => ?_, hok a⟩
  rcases hcases with ⟨a', ha'⟩ | ⟨e, he⟩
  · obtain rfl := Except.ok.inj (h.symm.trans (hok a' ha'))
    exact ha'
  · cases h.symm.trans (herror e he)

theorem eq_error_iff_of_cases {e : ε} : x = .error e ↔ Q e := by
  refine ⟨fun h => ?_, herror e⟩
  rcases hcases with ⟨a, ha⟩ | ⟨e', he'⟩
  · cases h.symm.trans (hok a ha)
  · obtain rfl := Except.error.inj (h.symm.trans (herror e' he'))
    exact he'

end Cases

theorem toOption_eq_some {a : α} : x.toOption = some a ↔ x = .ok a := by
  cases x with
  | error e => simp [Except.toOption]
  | ok b => simp [Except.toOption]

end Highlight.Except
