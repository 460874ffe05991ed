/-! # Outcomes

What is computed in steps is a value if each step gives one, and else the error of the first step
that gives none.
-/

namespace DocIndex

variable {ε ε' α β : Type}

theorem bind_eq_ok_iff {outcome : Except ε α} {f : α → Except ε β} {b : β} :
    (outcome >>= f) = .ok b ↔ ∃ a, outcome = .ok a ∧ f a = .ok b := by
  cases outcome with
  | error e => simp [bind, Except.bind]
  | ok a => simp [bind, Except.bind]

theorem bind_eq_error_iff {outcome : Except ε α} {f : α → Except ε β} {e : ε} :
    outcome.bind f = .error e ↔ outcome = .error e ∨ ∃ a, outcome = .ok a ∧ f a = .error e := by
  cases outcome with
  | error e' => simp [Except.bind]
  | ok a => simp [Except.bind]

theorem mapError_eq_ok_iff {outcome : Except ε α} {f : ε → ε'} {a : α} :
    outcome.mapError f = .ok a ↔ outcome = .ok a := by
  constructor
  · intro h
    cases outcome with
    | error e => cases h
    | ok b => exact congrArg Except.ok (Except.ok.inj h)
  · rintro rfl
    rfl

/-- The error, if there is no value. -/
def failure? : Except ε α → Option ε
  | .error e => some e
  | .ok _ => none

theorem failure?_eq_some_iff {outcome : Except ε α} {e : ε} :
    failure? outcome = some e ↔ outcome = .error e := by
  cases outcome <;> simp [failure?]

@[simp] theorem failure?_map {outcome : Except ε α} {f : α → β} :
    failure? (outcome.map f) = failure? outcome := by
  cases outcome <;> rfl

/-- All items have a value if each of them has the one in its place. -/
theorem mapM_eq_ok_iff {f : α → Except ε β} {items : List α} {values : List β} :
    items.mapM f = .ok values ↔ items.map f = values.map .ok := by
  induction items generalizing values with
  | nil => cases values <;> simp [pure, Except.pure]
  | cons x rest ih =>
      rw [List.mapM_cons, bind_eq_ok_iff]
      constructor
      · rintro ⟨a, ha, hrest⟩
        obtain ⟨others, hothers, hvalues⟩ := bind_eq_ok_iff.mp hrest
        cases hvalues
        rw [List.map_cons, List.map_cons, ha, ih.mp hothers]
      · intro h
        cases values with
        | nil => cases h
        | cons a others =>
            obtain ⟨ha, hothers⟩ := List.cons.inj h
            exact ⟨a, ha, bind_eq_ok_iff.mpr ⟨others, ih.mpr hothers, rfl⟩⟩

/-- What is seen of a value through `f` shows that there is one. -/
theorem exists_ok_of_map {outcome : Except ε α} {f : α → β} {b : β}
    (h : outcome.toOption.map f = some b) : ∃ a, outcome = .ok a ∧ f a = b := by
  cases outcome with
  | error e => cases h
  | ok a =>
      cases h
      exact ⟨a, rfl, rfl⟩

end DocIndex
