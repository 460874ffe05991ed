import DocIndex.Proofs.Index.Run

/-! # The queue of jobs

The jobs in the queue are the loads in flight, one for each partition. A load queues a job only if
nothing else answers it, and a closed index queues none.
-/

namespace DocIndex.Index

variable {x : Index} {p : Partition}

/-! ## One load -/

/-- Whether a load of `p` needs a job of its own: nothing is known of `p`, no load of it is in
flight, and loads are still taken. -/
def NeedsJob (x : Index) (p : Partition) : Prop :=
  x.store.entries? p = none ∧ x.store.failure? p = none ∧ x.isLoading p = false ∧
    x.closed = false

theorem load_of_needsJob (h : x.NeedsJob p) : x.load p = x.enqueue p := by
  obtain ⟨hentries, hfailure, hflight, hclosed⟩ := h
  have hslot := Store.slot_eq_unknown.mpr ⟨hentries, hfailure⟩
  have hfree : x.inFlight p = none := by simpa [isLoading] using hflight
  simp [load, settled?, hslot, hfree, hclosed]

theorem queue_load_of_not_needsJob (h : ¬x.NeedsJob p) : (x.load p).1.queue = x.queue := by
  unfold load settled?
  cases hslot : x.store.slot p with
  | loaded entries => rfl
  | failed reason => rfl
  | unknown =>
      cases hflight : x.inFlight p with
      | some i => rfl
      | none =>
          cases hclosed : x.closed with
          | true => rfl
          | false =>
              obtain ⟨hentries, hfailure⟩ := Store.slot_eq_unknown.mp hslot
              exact absurd ⟨hentries, hfailure, by simp [isLoading, hflight], hclosed⟩ h

/-- A load of a partition that is in flight is the one that the job in the queue is for. -/
theorem load_of_inFlight {i : Nat} (hentries : x.store.entries? p = none)
    (hfailure : x.store.failure? p = none) (hflight : x.inFlight p = some i) :
    x.load p = (x, i) := by
  have hslot := Store.slot_eq_unknown.mpr ⟨hentries, hfailure⟩
  simp [load, settled?, hslot, hflight]

/-! ## All events -/

/-- A job in the queue was there before, or nothing was known of its partition. -/
theorem mem_queue_step [Literal.Reader] {job : Job} {e : Event} (h : job ∈ (x.step e).queue) :
    job ∈ x.queue ∨ x.store.slot job.partition = .unknown := by
  cases hend : x.ending? e with
  | some ended =>
      obtain ⟨-, store, fetched, hstep⟩ := step_of_ending hend
      rw [hstep] at h
      exact .inl (List.mem_of_mem_erase h)
  | none =>
      rcases asks_of_not_ending hend with hasks | ⟨w, rfl⟩ | rfl
      · obtain ⟨jobs, hqueue, hjobs⟩ := hasks.queue
        rw [hqueue] at h
        rcases List.mem_append.mp h with hold | hnew
        · exact .inl hold
        · exact .inr (hjobs job hnew).1
      · exact .inl h
      · exact .inl h

theorem step_of_closed [Literal.Reader] (h : x.closed = true) (e : Event) :
    (x.step e).closed = true ∧ (x.step e).queue.Sublist x.queue := by
  cases hend : x.ending? e with
  | some ended =>
      obtain ⟨-, store, fetched, hstep⟩ := step_of_ending hend
      rw [hstep]
      exact ⟨h, List.erase_sublist⟩
  | none =>
      rcases asks_of_not_ending hend with hasks | ⟨w, rfl⟩ | rfl
      · refine ⟨hasks.closed.trans h, ?_⟩
        obtain ⟨jobs, hqueue, hjobs⟩ := hasks.queue
        cases jobs with
        | nil => simp [hqueue]
        | cons job jobs =>
            have hopen := (hjobs job List.mem_cons_self).2
            rw [h] at hopen
            cases hopen
      · exact ⟨h, List.Sublist.refl _⟩
      · exact ⟨rfl, List.Sublist.refl _⟩

theorem after_of_closed [Literal.Reader] (h : x.closed = true) (events : List Event) :
    (x.after events).closed = true ∧ (x.after events).queue.Sublist x.queue :=
  after_induction (motive := fun y => y.closed = true ∧ y.queue.Sublist x.queue)
    ⟨h, List.Sublist.refl _⟩ fun _ e _ hy =>
      ⟨(step_of_closed hy.1 e).1, (step_of_closed hy.1 e).2.trans hy.2⟩

/-! ## Jobs that have ended -/

theorem Consistent.noJob_erase (h : Consistent x) {job : Job} (hjob : job ∈ x.queue) :
    ∀ other ∈ x.queue.erase job, other.partition ≠ job.partition := by
  intro other hother hp
  rw [h.nodup.mem_erase_iff] at hother
  exact h.load_ne hother.2 hjob hother.1 ((h.load_eq_iff hother.2 hjob).mpr hp)

theorem noJob_of_nextJob? (h : x.nextJob? (some p) = none) :
    ∀ job ∈ x.queue, job.partition ≠ p := by
  intro job hjob hp
  exact List.find?_eq_none.mp h job hjob (beq_iff_eq.mpr hp)

theorem partition_of_nextJob? {job : Job} (h : x.nextJob? (some p) = some job) :
    job.partition = p := by
  unfold nextJob? at h
  simpa using List.find?_some h

theorem Consistent.noJob_run [Literal.Reader] (h : Consistent x) (p : Partition)
    (fetch : String → Except Fault String) :
    ∀ job ∈ (x.run (some p) fetch).1.queue, job.partition ≠ p := by
  unfold Index.run
  cases hjob : x.nextJob? (some p) with
  | none => exact noJob_of_nextJob? hjob
  | some job => exact partition_of_nextJob? hjob ▸ h.noJob_erase (List.mem_of_find?_eq_some hjob)

theorem Consistent.noJob_breakOff (h : Consistent x) (p : Partition) (f : Fault) :
    ∀ job ∈ (x.breakOff p f).1.queue, job.partition ≠ p := by
  unfold Index.breakOff
  cases hjob : x.nextJob? (some p) with
  | none => exact noJob_of_nextJob? hjob
  | some job => exact partition_of_nextJob? hjob ▸ h.noJob_erase (List.mem_of_find?_eq_some hjob)

/-! ## One job each -/

/-- The jobs in the queue are the loads in flight, one for each partition. -/
structure OneJobEach [Literal.Reader] (x : Index) : Prop where
  inFlight : ∀ p, x.isLoading p = true ↔ ∃ job ∈ x.queue, job.partition = p
  distinct : x.queue.Pairwise fun a b => a.partition ≠ b.partition
  /-- A load queues a job of its own, or none. -/
  queued : ∀ p, (x.NeedsJob p → (x.load p).1.queue = x.queue ++ [⟨p, (x.load p).2⟩]) ∧
    (¬x.NeedsJob p → (x.load p).1.queue = x.queue)
  /-- While nothing is known of a partition in flight, its load is that of the job, which is not
  done. -/
  shared : ∀ job ∈ x.queue, x.loads[job.load]? = some ⟨job.partition, none⟩ ∧
    (x.store.entries? job.partition = none → x.store.failure? job.partition = none →
      x.load job.partition = (x, job.load))
  /-- Once the index is closed, the queue never grows again. -/
  closed : ∀ events more, (((x.step .close).after events).after more).queue.Sublist
    ((x.step .close).after events).queue

theorem Consistent.isLoading_iff (h : Consistent x) (p : Partition) :
    x.isLoading p = true ↔ ∃ job ∈ x.queue, job.partition = p := by
  rw [isLoading, Option.isSome_iff_exists]
  constructor
  · rintro ⟨i, hflight⟩
    exact ⟨⟨p, i⟩, (h.inFlight p i).mp hflight, rfl⟩
  · rintro ⟨job, hjob, rfl⟩
    exact ⟨job.load, (h.inFlight job.partition job.load).mpr hjob⟩

/-- After any run, each partition has one job in the queue if it is in flight, and none if not. -/
theorem after_one_job_each [Literal.Reader] (sectionName : String) (minLength : Int)
    (events : List Event) :
    OneJobEach ((empty sectionName minLength).after events) := by
  have h := (after_answering sectionName minLength events).toConsistent
  have hclose : (((empty sectionName minLength).after events).step .close).closed = true := rfl
  refine ⟨h.isLoading_iff, h.distinct, fun p => ⟨fun hneeds => ?_, queue_load_of_not_needsJob⟩,
    fun job hjob => ⟨h.job job hjob, fun hentries hfailure => ?_⟩, fun events' more => ?_⟩
  · rw [load_of_needsJob hneeds]
    rfl
  · exact load_of_inFlight hentries hfailure ((h.inFlight job.partition job.load).mpr hjob)
  · exact (after_of_closed (after_of_closed hclose events').1 more).2

section

attribute [local instance] Literal.Reader.plain

example : ((empty "all" 1).after [.search "Ap", .search "as", .search "b"]).queue.map
    (fun job => (job.partition.token, job.load)) = [('a', 0), ('b', 1)] := by decide +kernel

end

end DocIndex.Index
