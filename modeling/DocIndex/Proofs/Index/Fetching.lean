import DocIndex.Proofs.Index.Queue
import DocIndex.Proofs.Partition.Routing

/-! # Fetches

A job that is run fetches the file of its partition, and nothing else fetches. What a fetch comes
to is known in the store until it is reset, so no file is fetched again without cause.
-/

namespace DocIndex.Index

open PartitionFile

variable {x : Index} {p : Partition} {e : Event} {got : Except Fault String}

/-! ## One fetch -/

/-- Event `e` fetches the file of `p`, and `got` is what it is given. -/
inductive Fetches (x : Index) : Event → Partition → Except Fault String → Prop where
  | run {p? : Option Partition} {job : Job} (hjob : x.nextJob? p? = some job)
      (fetch : String → Except Fault String) :
      Fetches x (.run p? fetch) job.partition (fetch (job.partition.fileName x.sectionName))

section Reading

variable [Literal.Reader]

/-- A partition has no job, and gets none while something is known of it. -/
structure Settled (x : Index) (p : Partition) : Prop where
  known : x.store.slot p ≠ .unknown
  noJob : ∀ job ∈ x.queue, job.partition ≠ p

namespace Settled

theorem noJob_step (h : Settled x p) (e : Event) : ∀ job ∈ (x.step e).queue, job.partition ≠ p := by
  rintro job hjob rfl
  rcases mem_queue_step hjob with hold | hunknown
  · exact h.noJob job hold rfl
  · exact h.known hunknown

/-- Only a reset unsettles a partition. -/
theorem step (h : Settled x p) (hreset : ∀ w, e = .write w → ¬w.Resets p) :
    Settled (x.step e) p := by
  refine ⟨?_, h.noJob_step e⟩
  rcases store_step x e with hstore | ⟨w, hstore, hw | ⟨job, fetch, rfl⟩⟩
  · exact hstore ▸ h.known
  · exact hstore ▸ Store.slot_write_ne_unknown h.known (hreset w hw)
  · have htold : ¬(told job.partition (x.fileOf job fetch)).Resets p := by
      cases x.fileOf job fetch <;> exact id
    exact hstore ▸ Store.slot_write_ne_unknown h.known htold

theorem after (h : Settled x p) {events : List Event}
    (hreset : ∀ w, .write w ∈ events → ¬w.Resets p) : Settled (x.after events) p :=
  after_induction (motive := fun y => Settled y p) h fun _ _ he hy =>
    hy.step fun w hw => hreset w (hw ▸ he)

end Settled

/-! ## What a fetch leaves -/

/-- A fetch takes the only job for its partition, and the store is told what it came to. -/
theorem Fetches.settled (h : Fetches x e p got) (hx : Consistent x) : Settled (x.step e) p := by
  cases h with
  | run hjob fetch =>
      rename_i p? job
      rw [step_run hjob]
      constructor
      · have hstore : (x.runJob job fetch).store =
            x.store.write (told job.partition (x.fileOf job fetch)) := note_store _ _ _
        rw [hstore]
        cases x.fileOf job fetch with
        | ok parsed => exact Store.slot_store_ne_unknown parsed.entries
        | error f => exact Store.slot_markFailed_ne_unknown f.reason
      · exact hx.noJob_erase (List.mem_of_find?_eq_some hjob)

end Reading

/-- A run of the next job that finds no file. -/
def failing : Event := .run none fun _ => .error ⟨"FetchError", "no such file"⟩

section

attribute [local instance] Literal.Reader.plain

example : ((empty "all" 1).after [.search "Ap", failing, .search "Ap", failing]).fetched =
    ["all_a.js"] := by decide +kernel

example : ((empty "all" 1).after [.search "Ap", failing, .write (.reset none), .search "Ap",
    failing]).fetched = ["all_a.js", "all_a.js"] := by decide +kernel

end

end DocIndex.Index
