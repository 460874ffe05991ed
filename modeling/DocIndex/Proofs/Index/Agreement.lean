import DocIndex.Proofs.Index.Fetching
import DocIndex.Proofs.Index.Waiting

/-! # What a load says of the store

A job that is run tells the store what it found and its load what the store then holds. There is
one case in which the two differ: entries stored from outside while the job was queued stay, but
all who wait are told that there are none if the file cannot be had.
-/

namespace DocIndex.Index

open PartitionFile

/-! ## One result -/

/-- A result reports what the store knows of `p`: the entries, or the reason why there are none. -/
def Reports (s : Store) (p : Partition) (result : LoadResult) : Prop :=
  match s.entries? p with
  | some held => result.reason? = none ∧ result.entries = held
  | none => result.entries = [] ∧ result.reason?.isSome ∧ result.reason? = s.failure? p

/-- Whether a file is denied though entries of its partition are stored. -/
def Denied (s : Store) (p : Partition) (file : Except Fault Parsed) : Prop :=
  (s.entries? p).isSome ∧ ∃ f, file = .error f

/-- A file that has been read is reported by what the store holds then. -/
theorem reports_note_ok (s : Store) (p : Partition) (parsed : Parsed) :
    Reports (note s p (.ok parsed)).1 p (note s p (.ok parsed)).2 := by
  obtain ⟨held, hheld⟩ : ∃ held, (note s p (.ok parsed)).1.entries? p = some held :=
    ⟨_, (entries?_note s p (.ok parsed) p).trans (if_pos rfl)⟩
  have hresult : (note s p (.ok parsed)).2 = .loaded held parsed.dropped := by
    have hentries : ((s.store p parsed.entries).1.entries? p) = some held := hheld
    rw [note, hentries]
    rfl
  rw [Reports, hheld, hresult]
  exact ⟨rfl, rfl⟩

/-- The reason why a file cannot be had is noted if there are no entries. -/
theorem reports_note_error {s : Store} {p : Partition} (h : s.entries? p = none) (f : Fault) :
    Reports (note s p (.error f)).1 p (note s p (.error f)).2 := by
  have hnone : (s.markFailed p f.reason).entries? p = none := by simpa using h
  rw [note, Reports, hnone]
  exact ⟨rfl, rfl, (Store.failure?_markFailed h f.reason).symm⟩

/-- What is stored stays if its file is denied, but the reason is told. -/
theorem note_of_denied {s : Store} {p : Partition} {file : Except Fault Parsed}
    (h : Denied s p file) : ∃ f, file = .error f ∧ note s p file = (s, .failed f.reason) := by
  obtain ⟨hsome, f, rfl⟩ := h
  obtain ⟨held, hheld⟩ := Option.isSome_iff_exists.mp hsome
  exact ⟨f, rfl, by rw [note, Store.markFailed_of_some hheld]⟩

theorem not_reports_of_denied {s : Store} {p : Partition} {file : Except Fault Parsed}
    (h : Denied s p file) : ¬Reports (note s p file).1 p (note s p file).2 := by
  obtain ⟨held, hheld⟩ := Option.isSome_iff_exists.mp h.1
  obtain ⟨f, -, hnote⟩ := note_of_denied h
  rw [hnote, Reports, hheld]
  rintro ⟨hreason, -⟩
  cases hreason

theorem reports_note_iff (s : Store) (p : Partition) (file : Except Fault Parsed) :
    Reports (note s p file).1 p (note s p file).2 ↔ ¬Denied s p file := by
  refine ⟨fun hreports hdenied => not_reports_of_denied hdenied hreports, fun hnot => ?_⟩
  cases file with
  | ok parsed => exact reports_note_ok s p parsed
  | error f =>
      cases h : s.entries? p with
      | none => exact reports_note_error h f
      | some held => exact absurd ⟨by rw [h]; rfl, f, rfl⟩ hnot

/-! ## One job -/

variable {x : Index} {job : Job}

/-- Each job in the queue is the next one for its partition. -/
theorem Consistent.nextJob?_partition (h : Consistent x) (hjob : job ∈ x.queue) :
    x.nextJob? (some job.partition) = some job := by
  cases hnext : x.nextJob? (some job.partition) with
  | none => exact absurd rfl (noJob_of_nextJob? hnext job hjob)
  | some next =>
      have hmem := List.mem_of_find?_eq_some hnext
      have hload := (h.load_eq_iff hmem hjob).mpr (partition_of_nextJob? hnext)
      rw [h.job_unique hmem hjob hload]

theorem searchOutcome?_complete {i : Nat} {q : Query.Prepared} (outcome : Except Fault LoadResult)
    (hsearch : x.searches[i]? = some (.waiting q job.load)) :
    (x.complete job outcome).searchOutcome? i = some (outcome.map q.answerOf) := by
  rw [searchOutcome?, searches_complete, hsearch]
  simp [Search.settle, Search.outcome?]

/-- All who wait for the job are given one result when it is run, and it reports what the store
then holds unless the file is denied though entries are stored. -/
structure ReportsUnlessDenied [Literal.Reader] (x : Index) (job : Job)
    (fetch : String → Except Fault String) (result : LoadResult) : Prop where
  runs : x.step (.run (some job.partition) fetch) = x.runJob job fetch
  load : (x.runJob job fetch).loadOutcome? job.load = some (.ok result)
  searches : ∀ i q, x.searches[i]? = some (.waiting q job.load) →
    (x.runJob job fetch).searchOutcome? i = some (.ok (q.answerOf result))
  reports : Reports (x.runJob job fetch).store job.partition result ↔
    ¬Denied x.store job.partition (x.fileOf job fetch)
  denied : Denied x.store job.partition (x.fileOf job fetch) →
    (x.runJob job fetch).store = x.store ∧
      ∃ f, x.fileOf job fetch = .error f ∧ result = .failed f.reason

theorem Consistent.reportsUnlessDenied [Literal.Reader] (h : Consistent x) (hjob : job ∈ x.queue)
    (fetch : String → Except Fault String) :
    ReportsUnlessDenied x job fetch (note x.store job.partition (x.fileOf job fetch)).2 where
  runs := step_run (h.nextJob?_partition hjob) fetch
  load := by
    have hload := h.loads_step_of_ending (e := .run (some job.partition) fetch)
      (by rw [ending?, h.nextJob?_partition hjob]; rfl)
    rw [step_run (h.nextJob?_partition hjob)] at hload
    rw [loadOutcome?, hload]
    rfl
  searches i q hsearch := searchOutcome?_complete _ hsearch
  reports := reports_note_iff x.store job.partition (x.fileOf job fetch)
  denied hdenied := by
    obtain ⟨f, hf, hnote⟩ := note_of_denied hdenied
    exact ⟨congrArg Prod.fst hnote, f, hf, congrArg Prod.snd hnote⟩

/-! ## Any run -/

/-- After any run, a job that is run gives all who wait for it one result, and it agrees with the
store unless the file is denied though entries of the partition are stored. -/
theorem after_reports_unless_denied [Literal.Reader] (sectionName : String) (minLength : Int)
    (events : List Event) {job : Job} (h : job ∈ ((empty sectionName minLength).after events).queue)
    (fetch : String → Except Fault String) :
    ∃ result, ReportsUnlessDenied ((empty sectionName minLength).after events) job fetch result :=
  ⟨_, (after_answering sectionName minLength events).toConsistent.reportsUnlessDenied h fetch⟩

/-- Entries are stored from outside while the job of their partition is in the queue. -/
def storedEvents : List Event :=
  [.load (Partition.ofKey "acorn"), .write (.store (Partition.ofKey "acorn") [acorn])]

section

attribute [local instance] Literal.Reader.plain

theorem after_reports_unless_denied_acorn :
    ⟨Partition.ofKey "acorn", 0⟩ ∈ ((empty "all" 1).after storedEvents).queue ∧
      ∃ result, ReportsUnlessDenied ((empty "all" 1).after storedEvents)
        ⟨Partition.ofKey "acorn", 0⟩ (fun _ => .ok "var searchData=[];") result := by
  have hjob : ⟨Partition.ofKey "acorn", 0⟩ ∈ ((empty "all" 1).after storedEvents).queue := by
    decide +kernel
  exact ⟨hjob, after_reports_unless_denied "all" 1 storedEvents hjob _⟩

/-- The load is told that there are no entries, though they are there before and after it. -/
theorem stored_entries_denied :
    ((empty "all" 1).after storedEvents).store.entries? (Partition.ofKey "acorn") = some [acorn] ∧
      (((empty "all" 1).after storedEvents).step failing).store.entries?
        (Partition.ofKey "acorn") = some [acorn] ∧
      ((((empty "all" 1).after storedEvents).step failing).loadOutcome? 0).bind Except.toOption =
        some (.failed "FetchError: no such file") := by
  decide +kernel

end

end DocIndex.Index
