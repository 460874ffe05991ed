import DocIndex.Proofs.Index.Cached
import DocIndex.Proofs.Index.Queue

/-! # What the store cannot answer

A query that the store cannot answer is for a partition of which nothing is known. A closed index
refuses it unless a job for the partition is in the queue. Any other search waits, and there is
then one job in the queue for its partition.
-/

namespace DocIndex.Index

open Query

variable {x : Index} {raw : String} {p : Partition} {q : Prepared}

theorem searchCached_eq_none :
    x.searchCached raw = none ↔
      ∃ q, prepare? raw x.minLength = some q ∧ x.store.slot q.partition = .unknown := by
  unfold searchCached
  cases prepare? raw x.minLength with
  | none => simp
  | some q =>
      cases hslot : x.store.slot q.partition with
      | unknown => simp [hslot]
      | loaded entries => simp [hslot]
      | failed reason => simp [hslot]

theorem search_of_unknown (hq : prepare? raw x.minLength = some q)
    (hslot : x.store.slot q.partition = .unknown) :
    x.search raw = (x.load q.partition).1.follow q (x.load q.partition).2 := by
  simp only [search, hq, (Store.slot_eq_unknown.mp hslot).1]

/-! ## Refusals -/

/-- A closed index takes no loads but of partitions in flight. -/
def Refuses (x : Index) (p : Partition) : Prop := x.closed = true ∧ x.isLoading p = false

theorem load_of_refuses (hslot : x.store.slot p = .unknown) (h : x.Refuses p) :
    x.load p = x.addLoad ⟨p, some (.ok (.failed closedReason))⟩ := by
  have hfree : x.inFlight p = none := by simpa [isLoading] using h.2
  simp [load, settled?, hslot, hfree, h.1]

/-- A search that is refused is answered at once. -/
theorem search_of_refuses (hq : prepare? raw x.minLength = some q)
    (hslot : x.store.slot q.partition = .unknown) (h : x.Refuses q.partition) :
    (x.search raw).1.searchOutcome? (x.search raw).2 = some (.ok q.unavailable) := by
  rw [search_of_unknown hq hslot, load_of_refuses hslot h, follow_addLoad]
  exact searchOutcome?_addSearch _ _

/-! ## Searches that wait -/

/-- The jobs in the queue for a partition. -/
def jobsFor (x : Index) (p : Partition) : List Job := x.queue.filter fun job => job.partition = p

/-- There is one job at most for each partition. -/
theorem Consistent.jobsFor_eq (h : Consistent x) {job : Job} (hjob : job ∈ x.queue) :
    x.jobsFor job.partition = [job] := by
  obtain ⟨before, later, hqueue⟩ := List.append_of_mem hjob
  have hdistinct := h.distinct
  rw [hqueue, List.pairwise_append, List.pairwise_cons] at hdistinct
  obtain ⟨-, ⟨hlater, -⟩, hbefore⟩ := hdistinct
  have hnone : (before.filter fun other => other.partition = job.partition) = [] := by
    simpa using fun other hother => hbefore other hother job (List.mem_cons_self ..)
  have hnone' : (later.filter fun other => other.partition = job.partition) = [] := by
    simpa using fun other hother => Ne.symm (hlater other hother)
  simp [jobsFor, hqueue, hnone, hnone']

/-- A load that is not refused waits for its job if nothing is known of the partition. -/
theorem Consistent.loadOutcome?_load (h : Consistent x) (hslot : x.store.slot p = .unknown)
    (hopen : ¬x.Refuses p) : (x.load p).1.loadOutcome? (x.load p).2 = none := by
  obtain ⟨hentries, hfailure⟩ := Store.slot_eq_unknown.mp hslot
  cases hflight : x.inFlight p with
  | some i =>
      have hjob := h.job ⟨p, i⟩ ((h.inFlight p i).mp hflight)
      rw [load_of_inFlight hentries hfailure hflight]
      simp [loadOutcome?, hjob]
  | none =>
      have hfree : x.isLoading p = false := by simp [isLoading, hflight]
      have hclosed : x.closed = false := Bool.eq_false_iff.mpr fun hc => hopen ⟨hc, hfree⟩
      rw [load_of_needsJob ⟨hentries, hfailure, hfree, hclosed⟩]
      simp [Index.enqueue, Index.addLoad, loadOutcome?]

/-- A search that is not refused waits if nothing is known of its partition, for which there is
then one job. -/
theorem Consistent.search_waits (h : Consistent x) (hq : prepare? raw x.minLength = some q)
    (hslot : x.store.slot q.partition = .unknown) (hopen : ¬x.Refuses q.partition) :
    (x.search raw).1.searchOutcome? (x.search raw).2 = none ∧
      ∃ job, (x.search raw).1.jobsFor q.partition = [job] := by
  have hnone := h.loadOutcome?_load hslot hopen
  rw [search_of_unknown hq hslot, follow, hnone]
  refine ⟨?_, _, (h.load q.partition).jobsFor_eq (h.mem_queue_load q.partition hnone)⟩
  simp [Index.addSearch, searchOutcome?, Search.outcome?]

end DocIndex.Index
