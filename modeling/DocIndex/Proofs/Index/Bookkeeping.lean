import DocIndex.Index.Search
import DocIndex.Proofs.Numbering

/-! # Jobs, loads and searches

The jobs in the queue are the loads in flight, one for each partition at most, and every search
without an answer waits for one of them.
-/

namespace DocIndex.Index

/-- Jobs, loads and searches fit together. -/
structure Consistent (x : Index) : Prop where
  job : ∀ job ∈ x.queue, x.loads[job.load]? = some ⟨job.partition, none⟩
  pending : ∀ (i : Nat) (p : Partition), x.loads[i]? = some ⟨p, none⟩ → ⟨p, i⟩ ∈ x.queue
  inFlight : ∀ (p : Partition) (i : Nat), x.inFlight p = some i ↔ ⟨p, i⟩ ∈ x.queue
  distinct : x.queue.Pairwise fun a b => a.partition ≠ b.partition
  waiting : ∀ (i : Nat) (q : Query.Prepared) n, x.searches[i]? = some (Search.waiting q n) →
    ⟨q.partition, n⟩ ∈ x.queue

/-! ## What can happen to a load or a search -/

/-- The load of a partition is settled by the store, shared, refused or queued. -/
theorem load_cases (x : Index) (p : Partition) :
    (∃ entries, x.store.slot p = .loaded entries ∧
      x.load p = x.addLoad ⟨p, some (.ok (.loaded entries 0))⟩) ∨
    (∃ reason, x.load p = x.addLoad ⟨p, some (.ok (.failed reason))⟩) ∨
    (∃ i, x.inFlight p = some i ∧ x.load p = (x, i)) ∨
    (x.inFlight p = none ∧ x.load p = x.enqueue p) := by
  unfold load settled?
  cases x.store.slot p with
  | loaded entries => exact .inl ⟨entries, rfl, rfl⟩
  | failed reason => exact .inr (.inl ⟨reason, rfl⟩)
  | unknown =>
      cases hflight : x.inFlight p with
      | some i => exact .inr (.inr (.inl ⟨i, rfl, rfl⟩))
      | none =>
          cases hclosed : x.closed with
          | true => exact .inr (.inl ⟨closedReason, rfl⟩)
          | false => exact .inr (.inr (.inr ⟨rfl, rfl⟩))

/-- A query too short is answered at once, one whose partition is stored from the store, and any
other by the load of its partition. -/
theorem search_cases (x : Index) (raw : String) :
    (Query.prepare? raw x.minLength = none ∧
      x.search raw = x.addSearch (.answered (.ok (.ofShort raw)))) ∨
    ∃ q, Query.prepare? raw x.minLength = some q ∧
      ((∃ entries, x.store.entries? q.partition = some entries ∧
        x.search raw = x.addSearch (.answered (.ok (q.answerIn entries)))) ∨
      (x.store.entries? q.partition = none ∧
        x.search raw = (x.load q.partition).1.follow q (x.load q.partition).2)) := by
  unfold search
  cases hq : Query.prepare? raw x.minLength with
  | none => exact .inl ⟨rfl, rfl⟩
  | some q =>
      refine .inr ⟨q, rfl, ?_⟩
      cases hheld : x.store.entries? q.partition with
      | some entries => exact .inl ⟨entries, rfl, by simp [hheld]⟩
      | none => exact .inr ⟨rfl, by simp [hheld]⟩

/-- A load concerns neither the store nor the searches. -/
theorem load_frame (x : Index) (p : Partition) :
    (x.load p).1.store = x.store ∧ (x.load p).1.searches = x.searches ∧
      (x.load p).1.minLength = x.minLength ∧ (x.load p).1.sectionName = x.sectionName := by
  rcases load_cases x p with ⟨_, -, hload⟩ | ⟨_, hload⟩ | ⟨i, -, hload⟩ | ⟨-, hload⟩ <;>
    rw [hload] <;> exact ⟨rfl, rfl, rfl, rfl⟩

theorem search_number (x : Index) (raw : String) : (x.search raw).2 = x.searches.length := by
  rcases search_cases x raw with ⟨-, hsearch⟩ | ⟨q, -, ⟨_, -, hsearch⟩ | ⟨-, hsearch⟩⟩
  · rw [hsearch]
    rfl
  · rw [hsearch]
    rfl
  · rw [hsearch, follow, addSearch, (load_frame x q.partition).2.1]

theorem warm_searches (x : Index) (ps : List Partition) : (x.warm ps).1.searches = x.searches := by
  induction ps generalizing x with
  | nil => rfl
  | cons p ps ih => exact (ih (x.load p).1).trans (load_frame x p).2.1

/-! ## What the end of a job leaves -/

/-- The file of a job, as it is fetched and read. -/
def fileOf [Literal.Reader] (x : Index) (job : Job) (fetch : String → Except Fault String) :
    Except Fault PartitionFile.Parsed :=
  readFile fetch (job.partition.fileName x.sectionName) job.partition

theorem loads_complete (x : Index) (job : Job) (outcome : Except Fault LoadResult) (i : Nat) :
    (x.complete job outcome).loads[i]? =
      (x.loads[i]?).map fun l =>
        if job.load = i then { l with outcome? := some outcome } else l := by
  rw [complete, List.getElem?_modify]
  rfl

theorem searches_complete (x : Index) (job : Job) (outcome : Except Fault LoadResult) (i : Nat) :
    (x.complete job outcome).searches[i]? =
      (x.searches[i]?).map (Search.settle job.load outcome) := by
  rw [complete, List.getElem?_map]

/-- A search still waits after the end of a load if it waits for another one. -/
theorem settle_eq_waiting {s : Search} {load n : Nat} {outcome : Except Fault LoadResult}
    {q : Query.Prepared} :
    s.settle load outcome = .waiting q n ↔ s = .waiting q n ∧ n ≠ load := by
  cases s with
  | waiting q' n' =>
      by_cases hload : n' = load
      · simp only [Search.settle, if_pos hload, reduceCtorEq, Search.waiting.injEq, false_iff]
        rintro ⟨⟨-, rfl⟩, hne⟩
        exact hne hload
      · simp only [Search.settle, if_neg hload, Search.waiting.injEq]
        constructor
        · rintro ⟨rfl, rfl⟩
          exact ⟨⟨rfl, rfl⟩, hload⟩
        · exact fun h => h.1
  | answered outcome' => simp [Search.settle]

namespace Consistent

variable {x : Index}

theorem empty (sectionName : String) (minLength : Int) :
    Consistent (Index.empty sectionName minLength) where
  job job h := by simp [Index.empty] at h
  pending i p h := by simp [Index.empty] at h
  inFlight p i := by simp [Index.empty]
  distinct := .nil
  waiting i q n h := by simp [Index.empty] at h

theorem nodup (h : Consistent x) : x.queue.Nodup :=
  h.distinct.imp fun hne heq => hne (congrArg Job.partition heq)

/-- Jobs for one load are the same. -/
theorem job_unique (h : Consistent x) {a b : Job} (ha : a ∈ x.queue) (hb : b ∈ x.queue)
    (hload : a.load = b.load) : a = b := by
  have hpartition := h.job a ha
  rw [hload, h.job b hb] at hpartition
  cases a
  cases b
  simp only [Option.some.injEq, Load.mk.injEq, and_true] at hpartition hload
  rw [hpartition, hload]

/-- Of the jobs in the queue, one is for the partition of another only if it is the same. -/
theorem load_eq_iff (h : Consistent x) {p : Partition} {n : Nat} {job : Job}
    (hwait : ⟨p, n⟩ ∈ x.queue) (hjob : job ∈ x.queue) : n = job.load ↔ p = job.partition := by
  constructor
  · intro hload
    exact congrArg Job.partition (h.job_unique hwait hjob hload)
  · rintro rfl
    have hflight := (h.inFlight _ _).mpr hwait
    rw [(h.inFlight _ _).mpr hjob] at hflight
    exact (Option.some.inj hflight).symm

/-! ## Loads -/

/-- A load that is done at once is nobody's job. -/
theorem addLoad (h : Consistent x) (p : Partition) (outcome : Except Fault LoadResult) :
    Consistent (x.addLoad ⟨p, some outcome⟩).1 where
  job job hjob := getElem?_concat_eq_some.mpr (.inl (h.job job hjob))
  pending i q hi := by
    rcases getElem?_concat_eq_some.mp hi with hi | ⟨-, hi⟩
    · exact h.pending i q hi
    · cases hi
  inFlight := h.inFlight
  distinct := h.distinct
  waiting := h.waiting

/-- A load that is queued is in flight. -/
theorem enqueue (h : Consistent x) {p : Partition} (hfree : x.inFlight p = none) :
    Consistent (x.enqueue p).1 := by
  have hother : ∀ job ∈ x.queue, job.partition ≠ p := by
    rintro job hjob rfl
    have hflight := (h.inFlight job.partition job.load).mpr hjob
    rw [hfree] at hflight
    cases hflight
  exact {
    job := by
      intro job hjob
      rcases List.mem_append.mp hjob with hjob | hjob
      · exact getElem?_concat_eq_some.mpr (.inl (h.job job hjob))
      · rw [List.mem_singleton] at hjob
        subst hjob
        exact getElem?_concat_eq_some.mpr (.inr ⟨rfl, rfl⟩)
    pending := by
      intro i q hi
      rcases getElem?_concat_eq_some.mp hi with hold | ⟨rfl, hnew⟩
      · exact List.mem_append_left _ (h.pending i q hold)
      · cases hnew
        exact List.mem_append_right _ (List.mem_singleton_self _)
    inFlight := by
      intro q i
      have hmem : (⟨q, i⟩ : Job) ∈ (x.enqueue p).1.queue ↔
          ⟨q, i⟩ ∈ x.queue ∨ q = p ∧ i = x.loads.length := by
        simp [Index.enqueue, Index.addLoad]
      rw [hmem]
      by_cases hq : q = p
      · subst hq
        have hnot : (⟨q, i⟩ : Job) ∉ x.queue := fun hjob => hother _ hjob rfl
        simp [Index.enqueue, Index.addLoad, hnot, eq_comm]
      · simp [Index.enqueue, Index.addLoad, hq, h.inFlight]
    distinct := by
      refine List.pairwise_append.mpr ⟨h.distinct, List.pairwise_singleton _ _, ?_⟩
      intro a ha b hb
      rw [List.mem_singleton] at hb
      subst hb
      exact hother a ha
    waiting := fun i q n hi => List.mem_append_left _ (h.waiting i q n hi) }

theorem load (h : Consistent x) (p : Partition) : Consistent (x.load p).1 := by
  rcases load_cases x p with ⟨_, -, hload⟩ | ⟨_, hload⟩ | ⟨i, -, hload⟩ | ⟨hfree, hload⟩
  · rw [hload]
    exact h.addLoad p _
  · rw [hload]
    exact h.addLoad p _
  · rw [hload]
    exact h
  · rw [hload]
    exact h.enqueue hfree

/-! ## Searches -/

/-- A search may be added that has its answer, or that waits for a job in the queue. -/
theorem addSearch (h : Consistent x) {s : Search}
    (hs : ∀ q n, s = .waiting q n → ⟨q.partition, n⟩ ∈ x.queue) :
    Consistent (x.addSearch s).1 where
  job := h.job
  pending := h.pending
  inFlight := h.inFlight
  distinct := h.distinct
  waiting i q n hi := by
    rcases getElem?_concat_eq_some.mp hi with hi | ⟨-, hi⟩
    · exact h.waiting i q n hi
    · exact hs q n hi

/-- The load that is given for a partition is one of the partition. -/
theorem loads_load (h : Consistent x) (p : Partition) :
    ∃ outcome?, (x.load p).1.loads[(x.load p).2]? = some ⟨p, outcome?⟩ := by
  rcases load_cases x p with ⟨_, -, hload⟩ | ⟨_, hload⟩ | ⟨i, hflight, hload⟩ | ⟨-, hload⟩
  · rw [hload]
    exact ⟨_, getElem?_concat_eq_some.mpr (.inr ⟨rfl, rfl⟩)⟩
  · rw [hload]
    exact ⟨_, getElem?_concat_eq_some.mpr (.inr ⟨rfl, rfl⟩)⟩
  · rw [hload]
    exact ⟨none, h.job _ ((h.inFlight p i).mp hflight)⟩
  · rw [hload]
    exact ⟨none, getElem?_concat_eq_some.mpr (.inr ⟨rfl, rfl⟩)⟩

/-- A load without an outcome is in the queue. -/
theorem mem_queue_load (h : Consistent x) (p : Partition)
    (hnone : (x.load p).1.loadOutcome? (x.load p).2 = none) :
    ⟨p, (x.load p).2⟩ ∈ (x.load p).1.queue := by
  obtain ⟨outcome?, hload⟩ := h.loads_load p
  rw [loadOutcome?, hload] at hnone
  cases hnone
  exact (h.load p).pending _ p hload

/-! ## Ends of jobs -/

theorem load_ne (h : Consistent x) {a b : Job} (ha : a ∈ x.queue) (hb : b ∈ x.queue)
    (hne : a ≠ b) : a.load ≠ b.load := fun hload => hne (h.job_unique ha hb hload)

/-- When a job ends, its load is no longer in flight and nothing waits for it. -/
theorem complete (h : Consistent x) {job : Job} (hjob : job ∈ x.queue)
    (outcome : Except Fault LoadResult) : Consistent (x.complete job outcome) := by
  have herase : ∀ j, j ∈ x.queue.erase job ↔ j ≠ job ∧ j ∈ x.queue := fun j =>
    h.nodup.mem_erase_iff
  exact {
    job := by
      intro j hj
      obtain ⟨hne, hmem⟩ := (herase j).mp hj
      rw [loads_complete, h.job j hmem, Option.map_some,
        if_neg (h.load_ne hjob hmem (Ne.symm hne))]
    pending := by
      intro i p hi
      rw [loads_complete] at hi
      obtain ⟨l, hl, hsame⟩ := Option.map_eq_some_iff.mp hi
      split at hsame
      · cases hsame
      · rename_i hne
        subst hsame
        refine (herase _).mpr ⟨?_, h.pending i p hl⟩
        rintro rfl
        exact hne rfl
    inFlight := by
      intro p i
      have hflight : (x.complete job outcome).inFlight p =
          if p = job.partition then none else x.inFlight p := rfl
      rw [hflight]
      refine Iff.trans ?_ (herase ⟨p, i⟩).symm
      by_cases hp : p = job.partition
      · subst hp
        -- No other job in the queue is for the partition.
        simp only [if_true, reduceCtorEq, false_iff, not_and]
        intro hne hmem
        have hfirst := (h.inFlight _ _).mpr hjob
        rw [(h.inFlight _ _).mpr hmem] at hfirst
        cases hfirst
        exact hne rfl
      · have hne : (⟨p, i⟩ : Job) ≠ job := by
          rintro rfl
          exact hp rfl
        simp [hp, hne, h.inFlight]
    distinct := h.distinct.sublist List.erase_sublist
    waiting := by
      intro i q n hi
      rw [searches_complete] at hi
      obtain ⟨s, hs, hsettle⟩ := Option.map_eq_some_iff.mp hi
      obtain ⟨rfl, hne⟩ := settle_eq_waiting.mp hsettle
      refine (herase _).mpr ⟨?_, h.waiting i q n hs⟩
      rintro rfl
      exact hne rfl }

/-- What the store holds and what has been fetched does not matter, nor does it that no more loads
are taken. -/
theorem withStore (h : Consistent x) (store : Store) (fetched : List String) (closed : Bool) :
    Consistent { x with store, fetched, closed } where
  job := h.job
  pending := h.pending
  inFlight := h.inFlight
  distinct := h.distinct
  waiting := h.waiting

end Consistent

end DocIndex.Index
