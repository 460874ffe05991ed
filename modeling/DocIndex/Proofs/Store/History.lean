import DocIndex.Proofs.Partition.Routing
import DocIndex.Proofs.Store.Writes
import Mathlib.Data.List.Induction

/-! # The history of a store

What a store knows can be told from the writes that it has seen, whoever made them: the entries
that came first, or else the reason that was noted last and has not been reset since. A write to
one partition is not seen in any other.
-/

namespace DocIndex.Store

variable {s : Store} {p q : Partition}

/-- The store after writes, the oldest first. -/
def writeAll (s : Store) (writes : List Write) : Store := writes.foldl write s

theorem writeAll_concat (s : Store) (writes : List Write) (w : Write) :
    s.writeAll (writes ++ [w]) = (s.writeAll writes).write w := by
  simp [writeAll]

/-! ## What writes tell of a partition -/

namespace Write

instance (p : Partition) : DecidablePred (Resets p) := fun w =>
  match w with
  | .reset _ => inferInstanceAs (Decidable (_ ∨ _))
  | .store _ _ | .markFailed _ _ => isFalse id

/-- The entries that a write brings for `p`. -/
def entriesFor? (p : Partition) : Write → Option (List Entry)
  | .store q entries => if q = p then some entries else none
  | .markFailed _ _ | .reset _ => none

/-- The reason that a write gives for `p`. -/
def reasonFor? (p : Partition) : Write → Option String
  | .markFailed q reason => if q = p then some reason else none
  | .store _ _ | .reset _ => none

end Write

/-- The entries that the writes bring for `p` first. -/
def firstEntries? (p : Partition) (writes : List Write) : Option (List Entry) :=
  writes.findSome? (Write.entriesFor? p)

/-- The reason that the writes give for `p` last, if it has not been reset since. -/
def lastReason? (p : Partition) (writes : List Write) : Option String :=
  (writes.reverse.takeWhile fun w => ¬w.Resets p).findSome? (Write.reasonFor? p)

theorem firstEntries?_concat (p : Partition) (writes : List Write) (w : Write) :
    firstEntries? p (writes ++ [w]) = (firstEntries? p writes).or (w.entriesFor? p) := by
  simp [firstEntries?, List.findSome?_append]

theorem lastReason?_concat (p : Partition) (writes : List Write) (w : Write) :
    lastReason? p (writes ++ [w]) =
      if w.Resets p then none else (w.reasonFor? p).or (lastReason? p writes) := by
  by_cases h : w.Resets p
  · simp [lastReason?, h]
  · simp [lastReason?, h, List.findSome?_cons]
    cases w.reasonFor? p <;> simp

/-! ## One write -/

/-- The entries after a write are those that were there, or else those that it brings. -/
theorem entries?_write_eq (s : Store) (w : Write) (q : Partition) :
    (s.write w).entries? q = (s.entries? q).or (w.entriesFor? q) := by
  cases w with
  | store p entries =>
      rw [write, entries?_store]
      by_cases hq : q = p
      · subst hq
        cases s.entries? q <;> simp [Write.entriesFor?]
      · simp [Write.entriesFor?, hq, Ne.symm hq]
  | markFailed p reason => simp [write, Write.entriesFor?]
  | reset p? => cases p? <;> simp [write, Write.entriesFor?]

theorem failure?_write_of_resets {w : Write} (h : w.Resets q) :
    (s.write w).failure? q = none := by
  cases w with
  | store p entries => exact h.elim
  | markFailed p reason => exact h.elim
  | reset p? =>
      rcases h with rfl | rfl
      · rfl
      · exact (failure?_reset s q q).trans (if_pos rfl)

/-- If a partition has no entries after a write that does not reset it, the write has noted its
reason or left the one that stood. -/
theorem failure?_write {w : Write} (hnone : (s.write w).entries? q = none) (h : ¬w.Resets q) :
    (s.write w).failure? q = (w.reasonFor? q).or (s.failure? q) := by
  by_cases hq : w.Concerns q
  · cases w with
    | store p entries =>
        cases hq
        rw [write, entries?_store, if_pos rfl] at hnone
        cases hnone
    | markFailed p reason =>
        cases hq
        have hheld : s.entries? q = none := by simpa [write] using hnone
        simp [write, failure?_markFailed hheld, Write.reasonFor?]
    | reset p? => exact absurd hq h
  · have hreason : w.reasonFor? q = none := by
      cases w with
      | markFailed p reason => exact if_neg hq
      | store p entries => rfl
      | reset p? => rfl
    rw [hreason, Option.none_or, (write_of_not_concerns hq).2]

/-! ## All writes -/

theorem entries?_writeAll {held : List Entry} (h : s.entries? p = some held)
    (writes : List Write) : (s.writeAll writes).entries? p = some held := by
  induction writes using List.reverseRecOn with
  | nil => exact h
  | append_singleton writes w ih => exact writeAll_concat s writes w ▸ entries?_write ih w

/-- The entries of a partition are those that came first. -/
theorem entries?_writeAll_empty (p : Partition) (writes : List Write) :
    (empty.writeAll writes).entries? p = firstEntries? p writes := by
  induction writes using List.reverseRecOn with
  | nil => rfl
  | append_singleton writes w ih =>
      rw [writeAll_concat, entries?_write_eq, ih, firstEntries?_concat]

/-- The reason of a partition without entries is the one that was noted last. -/
theorem failure?_writeAll_empty {writes : List Write}
    (h : (empty.writeAll writes).entries? p = none) :
    (empty.writeAll writes).failure? p = lastReason? p writes := by
  induction writes using List.reverseRecOn with
  | nil => rfl
  | append_singleton writes w ih =>
      rw [writeAll_concat] at h ⊢
      rw [lastReason?_concat]
      split
      · rename_i hresets
        exact failure?_write_of_resets hresets
      · rename_i hresets
        -- Entries are never lost, so there were none before the write either.
        have hnone : (empty.writeAll writes).entries? p = none := by
          rw [entries?_write_eq, Option.or_eq_none_iff] at h
          exact h.1
        rw [failure?_write h hresets, ih hnone]

/-- Storing and noting leave either entries or a reason, so all writes do. -/
theorem exclusive_writeAll (writes : List Write) : (empty.writeAll writes).Exclusive := by
  induction writes using List.reverseRecOn with
  | nil => exact exclusive_empty
  | append_singleton writes w ih => exact writeAll_concat empty writes w ▸ exclusive_write ih w

theorem mem_loadedPartitions : p ∈ s.loadedPartitions ↔ (s.entries? p).isSome := by
  have hall : p ∈ Partition.inTokenOrder := List.mem_mergeSort.mpr p.mem_all
  simp [loadedPartitions, hall]

/-- A store knows what its writes tell. -/
structure Recorded (s : Store) (writes : List Write) : Prop where
  /-- No partition has both entries and a reason why there are none. -/
  exclusive : ∀ p, s.entries? p = none ∨ s.failure? p = none
  /-- A partition has the entries that came first. -/
  entries : ∀ p, s.entries? p = firstEntries? p writes
  /-- It keeps them whatever is written later, and no others are stored. -/
  kept : ∀ p held, s.entries? p = some held → ∀ more,
    (s.writeAll more).entries? p = some held ∧
      ∀ entries, (s.writeAll more).store p entries = (s.writeAll more, false)
  /-- A partition without entries has the reason that was noted last since it was reset. -/
  failure : ∀ p, s.failure? p = if (s.entries? p).isSome then none else lastReason? p writes
  /-- A write is not seen in the partitions that it does not concern. -/
  others : ∀ w p, ¬w.Concerns p →
    (s.write w).entries? p = s.entries? p ∧ (s.write w).failure? p = s.failure? p ∧
      (p ∈ (s.write w).loadedPartitions ↔ p ∈ s.loadedPartitions)
  /-- A reset of all partitions takes the reasons away and nothing else. -/
  resetAll : ∀ p, s.resetAll.failure? p = none ∧ s.resetAll.entries? p = s.entries? p ∧
    s.resetAll.loadedPartitions = s.loadedPartitions

/-- After any writes, a store knows what they tell. -/
theorem writeAll_recorded (writes : List Write) : Recorded (empty.writeAll writes) writes where
  exclusive := exclusive_writeAll writes
  entries p := entries?_writeAll_empty p writes
  kept p held h more := by
    have hmore := entries?_writeAll h more
    exact ⟨hmore, fun _ => store_of_some hmore⟩
  failure p := by
    cases h : (empty.writeAll writes).entries? p with
    | none => simpa using failure?_writeAll_empty h
    | some held => simpa [h] using exclusive_writeAll writes p
  others w p hw := by
    obtain ⟨hentries, hfailure⟩ := write_of_not_concerns (s := empty.writeAll writes) hw
    refine ⟨hentries, hfailure, ?_⟩
    rw [mem_loadedPartitions, mem_loadedPartitions, hentries]
  resetAll p :=
    ⟨failure?_resetAll _ p, entries?_resetAll _ p, by simp [loadedPartitions]⟩

end DocIndex.Store
