import DocIndex.SearchBox.Basic

/-! # Keys and the selection

The escape key clears the query. All other keys change the selection at most.
-/

namespace DocIndex.SearchBox

variable {τ : Type}

theorem moveEntry_selects (b : SearchBox τ) (step : Int) :
    ∃ i j, (b.moveEntry step).1 = { b with selected := i, selectedHit := j } := by
  unfold moveEntry
  dsimp only
  split
  · exact ⟨_, _, rfl⟩
  · exact ⟨_, _, rfl⟩

theorem moveHit_selects (b : SearchBox τ) (step : Int) :
    ∃ i j, (b.moveHit step).1 = { b with selected := i, selectedHit := j } := by
  unfold moveHit
  split
  · exact ⟨_, _, rfl⟩
  · dsimp only
    split
    · exact ⟨_, _, rfl⟩
    · exact ⟨_, _, rfl⟩

variable [Add τ]

theorem press_escape (b : SearchBox τ) (now : τ) :
    b.press now .escape =
      if b.phase = .idle ∧ b.query = "" then (b, [], false)
      else ((b.clear now).1, (b.clear now).2, true) := rfl

/-- A key other than escape selects. -/
theorem press_selects (b : SearchBox τ) (now : τ) {key : Press} (h : key ≠ .escape) :
    ∃ i j, (b.press now key).1 = { b with selected := i, selectedHit := j } := by
  unfold press
  dsimp only
  rw [if_neg h]
  split
  · exact ⟨_, _, rfl⟩
  · cases key with
    | escape => exact absurd rfl h
    | up => exact b.moveEntry_selects (-1)
    | down => exact b.moveEntry_selects 1
    | left => exact b.moveHit_selects (-1)
    | right => exact b.moveHit_selects 1
    | enter => exact ⟨_, _, rfl⟩
    | other => exact ⟨_, _, rfl⟩

end DocIndex.SearchBox
