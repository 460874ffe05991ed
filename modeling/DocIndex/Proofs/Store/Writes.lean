import DocIndex.Proofs.Store.Slots

/-! # Writes to a store

A store is told entries, failures and resets, by the index or from outside. Entries once stored
stay, and what is known of a partition is forgotten by a reset only.
-/

namespace DocIndex.Store

inductive Write where
  | store (p : Partition) (entries : List Entry)
  | markFailed (p : Partition) (reason : String)
  | reset (p? : Option Partition)

/-- The store after a write. A reset of no partition in particular is one of all. -/
def write (s : Store) : Write → Store
  | .store p entries => (s.store p entries).1
  | .markFailed p reason => s.markFailed p reason
  | .reset none => s.resetAll
  | .reset (some p) => s.reset p

/-- Whether a write is a reset that covers `p`. -/
def Write.Resets (p : Partition) : Write → Prop
  | .reset p? => p? = none ∨ p? = some p
  | .store _ _ | .markFailed _ _ => False

/-- Whether a write is to `p`. A reset of all partitions is one to each. -/
def Write.Concerns (p : Partition) : Write → Prop
  | .store q _ | .markFailed q _ => q = p
  | .reset p? => p? = none ∨ p? = some p

variable {s : Store} {p q : Partition}

/-! ## Entries -/

theorem entries?_write {held : List Entry} (h : s.entries? q = some held) (w : Write) :
    (s.write w).entries? q = some held := by
  cases w with
  | store p entries =>
      rw [write, entries?_store]
      by_cases hq : q = p
      · subst hq
        simp [h]
      · simp [hq, h]
  | markFailed p reason => simpa [write] using h
  | reset p? => cases p? <;> simpa [write] using h

/-- All stored entries are in key order. -/
def Ordered (s : Store) : Prop :=
  ∀ p held, s.entries? p = some held → held.Pairwise fun a b => a.key ≤ b.key

/-- Whether a write stores entries in key order, if it stores any. -/
def Write.Ordered : Write → Prop
  | .store _ entries => entries.Pairwise fun a b => a.key ≤ b.key
  | .markFailed _ _ | .reset _ => True

theorem ordered_write (h : s.Ordered) {w : Write} (hw : w.Ordered) : (s.write w).Ordered := by
  intro q held hheld
  cases w with
  | store p entries =>
      rw [write, entries?_store] at hheld
      by_cases hq : q = p
      · rw [if_pos hq, Option.some.injEq] at hheld
        cases hold : s.entries? p with
        | none => simpa [hold, ← hheld, Write.Ordered] using hw
        | some held' =>
            rw [hold] at hheld
            exact hheld ▸ h p held' hold
      · rw [if_neg hq] at hheld
        exact h q held hheld
  | markFailed p reason => exact h q held (by simpa [write] using hheld)
  | reset p? => cases p? <;> exact h q held (by simpa [write] using hheld)

/-! ## What is known -/

/-- A write is not seen in the partitions that it does not concern. -/
theorem write_of_not_concerns {w : Write} (h : ¬w.Concerns q) :
    (s.write w).entries? q = s.entries? q ∧ (s.write w).failure? q = s.failure? q := by
  cases w with
  | store p entries =>
      have hq : q ≠ p := fun hq => h hq.symm
      exact ⟨(entries?_store s p entries q).trans (if_neg hq), failure?_store_of_ne hq⟩
  | markFailed p reason =>
      have hq : q ≠ p := fun hq => h hq.symm
      exact ⟨entries?_markFailed s p reason q, failure?_markFailed_of_ne hq reason⟩
  | reset p? =>
      cases p? with
      | none => exact absurd (.inl rfl) h
      | some p =>
          have hq : q ≠ p := fun hq => h (.inr (hq ▸ rfl))
          exact ⟨rfl, (failure?_reset s p q).trans (if_neg hq)⟩

theorem slot_write_of_not_concerns {w : Write} (h : ¬w.Concerns q) :
    (s.write w).slot q = s.slot q := by
  obtain ⟨hentries, hfailure⟩ := write_of_not_concerns (s := s) h
  rw [slot, slot, hentries, hfailure]

theorem slot_ne_unknown_of_some {held : List Entry} (h : s.entries? p = some held) :
    s.slot p ≠ .unknown := by
  simp [entries?_eq_some.mp h]

theorem slot_store_ne_unknown (entries : List Entry) :
    (s.store p entries).1.slot p ≠ .unknown :=
  slot_ne_unknown_of_some ((entries?_store s p entries p).trans (if_pos rfl))

theorem slot_markFailed_ne_unknown (reason : String) :
    (s.markFailed p reason).slot p ≠ .unknown := by
  cases h : s.entries? p with
  | none => simp [slot_eq_unknown, failure?_markFailed h]
  | some held => simpa [markFailed_of_some h] using slot_ne_unknown_of_some h

/-- What is known of a partition is not forgotten without a reset. -/
theorem slot_write_ne_unknown (h : s.slot q ≠ .unknown) {w : Write} (hw : ¬w.Resets q) :
    (s.write w).slot q ≠ .unknown := by
  by_cases hq : w.Concerns q
  · cases w with
    | store p entries =>
        cases hq
        exact slot_store_ne_unknown entries
    | markFailed p reason =>
        cases hq
        exact slot_markFailed_ne_unknown reason
    | reset p? => exact absurd hq hw
  · rw [slot_write_of_not_concerns hq]
    exact h

/-! ## Entries or a reason -/

/-- No partition has both entries and a reason why there are none. -/
def Exclusive (s : Store) : Prop := ∀ p, s.entries? p = none ∨ s.failure? p = none

theorem exclusive_empty : empty.Exclusive := fun _ => .inl rfl

/-- Entries are stored where no reason is left, and a reason is noted where there are no entries. -/
theorem exclusive_write (h : s.Exclusive) (w : Write) : (s.write w).Exclusive := by
  intro q
  by_cases hq : w.Concerns q
  · cases w with
    | store p entries =>
        cases hq
        cases hheld : s.entries? q with
        | none => exact .inr (failure?_store_self hheld)
        | some held => simpa [write, store_of_some hheld] using h q
    | markFailed p reason =>
        cases hq
        cases hheld : s.entries? q with
        | none => exact .inl (by simpa [write] using hheld)
        | some held => simpa [write, markFailed_of_some hheld] using h q
    | reset p? =>
        rcases hq with rfl | rfl
        · exact .inr rfl
        · exact .inr ((failure?_reset s q q).trans (if_pos rfl))
  · obtain ⟨hentries, hfailure⟩ := write_of_not_concerns (s := s) hq
    rw [hentries, hfailure]
    exact h q

end DocIndex.Store
