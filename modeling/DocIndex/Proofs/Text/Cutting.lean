import DocIndex.Text.Split

/-! # Cutting at the last mark

A text is cut at the last occurrence of a mark exactly if no other one begins later, also not one
that overlaps it.
-/

namespace DocIndex.Text

variable {m : Char} {ms s before after : List Char}

theorem splitLast?_eq_none_iff : splitLast? (m :: ms) s = none ↔ ¬m :: ms <:+: s := by
  induction s with
  | nil => simp [splitLast?]
  | cons c rest ih =>
      rw [splitLast?, List.infix_cons_iff, ← List.isPrefixOf_iff_prefix]
      cases hrest : splitLast? (m :: ms) rest with
      | none =>
          have hnone := ih.mp hrest
          cases hhere : (m :: ms).isPrefixOf (c :: rest) with
          | true => simp
          | false => simp [hnone]
      | some parts =>
          have hoccurs : m :: ms <:+: rest :=
            Decidable.byContradiction fun hnot => by simp [ih.mpr hnot] at hrest
          simp [hoccurs]

theorem splitLast?_append (before : List Char) (h : ¬m :: ms <:+: ms ++ after) :
    splitLast? (m :: ms) (before ++ m :: ms ++ after) = some (before, after) := by
  induction before with
  | nil => simp [splitLast?, splitLast?_eq_none_iff.mpr h, List.isPrefixOf_iff_prefix]
  | cons c before ih => rw [List.cons_append, List.cons_append, splitLast?, ih]

theorem parts_of_splitLast? (h : splitLast? (m :: ms) s = some (before, after)) :
    s = before ++ m :: ms ++ after ∧ ¬m :: ms <:+: ms ++ after := by
  induction s generalizing before with
  | nil => cases h
  | cons c rest ih =>
      rw [splitLast?] at h
      cases hrest : splitLast? (m :: ms) rest with
      | none =>
          rw [hrest] at h
          dsimp only at h
          split at h
          · rename_i hhere
            cases h
            obtain ⟨tail, htail⟩ := List.isPrefixOf_iff_prefix.mp hhere
            obtain ⟨rfl, rfl⟩ := List.cons.inj htail
            exact ⟨by simp, by simpa using splitLast?_eq_none_iff.mp hrest⟩
          · cases h
      | some parts =>
          obtain ⟨start, tail⟩ := parts
          rw [hrest] at h
          cases h
          obtain ⟨hparts, hlast⟩ := ih hrest
          exact ⟨by rw [hparts]; rfl, hlast⟩

/-- The parts around the last mark: no other one begins after the first character of this one. -/
theorem splitLast?_eq_some_iff :
    splitLast? (m :: ms) s = some (before, after) ↔
      s = before ++ m :: ms ++ after ∧ ¬m :: ms <:+: ms ++ after := by
  constructor
  · exact parts_of_splitLast?
  · rintro ⟨rfl, h⟩
    exact splitLast?_append before h

/-- Two characters stand side by side in two texts put together if they do in one of them, or the
first ends the one text and the second begins the other. -/
theorem pair_isInfix_append {a b : Char} {s t : List Char} (h : [a, b] <:+: s ++ t) :
    [a, b] <:+: s ∨ [a, b] <:+: t ∨ s.getLast? = some a ∧ t.head? = some b := by
  induction s with
  | nil => exact .inr (.inl h)
  | cons c s ih =>
      rcases List.infix_cons_iff.mp h with hhere | hlater
      · obtain ⟨rfl, hnext⟩ := List.cons_prefix_cons.mp hhere
        cases s with
        | nil =>
            obtain ⟨rest, rfl⟩ := hnext
            exact .inr (.inr ⟨rfl, rfl⟩)
        | cons d s =>
            obtain ⟨rfl, -⟩ := List.cons_prefix_cons.mp hnext
            exact .inl ⟨[], s, rfl⟩
      · rcases ih hlater with hs | ht | ⟨hlast, hhead⟩
        · exact .inl (List.infix_cons hs)
        · exact .inr (.inl ht)
        · exact .inr (.inr ⟨by simp [List.getLast?_cons, hlast], hhead⟩)

end DocIndex.Text
