import DocIndex.Store

/-! # The slots of a store

What an operation on one partition leaves in every slot.
-/

namespace DocIndex.Store

variable {s : Store} {p q : Partition} {entries : List Entry}

/-! ## What is known of a partition -/

theorem entries?_eq_some : s.entries? p = some entries ↔ s.slot p = .loaded entries := by
  unfold slot
  cases s.entries? p with
  | some held => simp
  | none => cases s.failure? p <;> simp

theorem slot_eq_failed {reason : String} :
    s.slot p = .failed reason ↔ s.entries? p = none ∧ s.failure? p = some reason := by
  unfold slot
  cases s.entries? p with
  | some held => simp
  | none => cases s.failure? p <;> simp

theorem slot_eq_unknown :
    s.slot p = .unknown ↔ s.entries? p = none ∧ s.failure? p = none := by
  unfold slot
  cases s.entries? p with
  | some held => simp
  | none => cases s.failure? p <;> simp

/-! ## Stored entries -/

theorem store_of_none (h : s.entries? p = none) :
    s.store p entries =
      ({ entries? := fun q => if q = p then some entries else s.entries? q
         failure? := fun q => if q = p then none else s.failure? q }, true) := by
  rw [store, h]

theorem store_of_some {held : List Entry} (h : s.entries? p = some held) :
    s.store p entries = (s, false) := by
  rw [store, h]

/-- After storing there are entries: those that were there, or else the new ones. -/
theorem entries?_store (s : Store) (p : Partition) (entries : List Entry) (q : Partition) :
    (s.store p entries).1.entries? q =
      if q = p then some ((s.entries? p).getD entries) else s.entries? q := by
  cases h : s.entries? p with
  | none => rw [store_of_none h, Option.getD_none]
  | some held =>
      rw [store_of_some h, Option.getD_some]
      split
      · rename_i hq
        rw [hq, h]
      · rfl

theorem failure?_store_of_ne (hq : q ≠ p) : (s.store p entries).1.failure? q = s.failure? q := by
  cases h : s.entries? p with
  | none =>
      rw [store_of_none h]
      exact if_neg hq
  | some held => rw [store_of_some h]

/-- Where new entries are stored no reason is left. -/
theorem failure?_store_self (h : s.entries? p = none) :
    (s.store p entries).1.failure? p = none := by
  rw [store_of_none h]
  exact if_pos rfl

/-! ## Reasons -/

@[simp] theorem entries?_markFailed (s : Store) (p : Partition) (reason : String)
    (q : Partition) : (s.markFailed p reason).entries? q = s.entries? q := by
  unfold markFailed
  split <;> rfl

/-- A reason is noted for a partition that has no entries, whatever stood there before. -/
theorem failure?_markFailed (h : s.entries? p = none) (reason : String) :
    (s.markFailed p reason).failure? p = some reason := by
  rw [markFailed, h]
  exact if_pos rfl

theorem failure?_markFailed_of_ne (hq : q ≠ p) (reason : String) :
    (s.markFailed p reason).failure? q = s.failure? q := by
  unfold markFailed
  split
  · rfl
  · exact if_neg hq

theorem markFailed_of_some {held : List Entry} (h : s.entries? p = some held) (reason : String) :
    s.markFailed p reason = s := by
  rw [markFailed, h]

@[simp] theorem entries?_reset (s : Store) (p q : Partition) :
    (s.reset p).entries? q = s.entries? q := rfl

theorem failure?_reset (s : Store) (p q : Partition) :
    (s.reset p).failure? q = if q = p then none else s.failure? q := rfl

@[simp] theorem entries?_resetAll (s : Store) (q : Partition) :
    s.resetAll.entries? q = s.entries? q := rfl

@[simp] theorem failure?_resetAll (s : Store) (q : Partition) : s.resetAll.failure? q = none := rfl

end DocIndex.Store
