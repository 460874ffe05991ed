import DocIndex.Proofs.Index.Growth

/-! # The answers of an index

A search that has an answer has the one that the store gives: no partition loses its entries, and
a load that gives entries gives those that are stored.
-/

namespace DocIndex.Index

open Query PartitionFile

/-! ## Answers -/

/-- What may become of a search for `raw`: it waits, it is answered from the store, or there is
no answer to be had. A query too short has no matches. -/
inductive Answers (x : Index) (raw : String) : Search → Prop where
  | short (hq : prepare? raw x.minLength = none) : Answers x raw (.answered (.ok (.ofShort raw)))
  | waiting {q : Prepared} (hq : prepare? raw x.minLength = some q) (load : Nat) :
      Answers x raw (.waiting q load)
  | fault (f : Fault) : Answers x raw (.answered (.error f))
  | unavailable {q : Prepared} (hq : prepare? raw x.minLength = some q) :
      Answers x raw (.answered (.ok q.unavailable))
  | found {q : Prepared} {held : List Entry} (hq : prepare? raw x.minLength = some q)
      (hheld : x.store.entries? q.partition = some held) :
      Answers x raw (.answered (.ok (q.answerIn held)))

/-- Answers stay as they are while the store grows. -/
theorem Answers.mono {x y : Index} {raw : String} {s : Search} (h : Answers x raw s)
    (hxy : Extends x y) : Answers y raw s := by
  cases h with
  | short hq => exact .short (hxy.minLength ▸ hq)
  | waiting hq load => exact .waiting (hxy.minLength ▸ hq) load
  | fault f => exact .fault f
  | unavailable hq => exact .unavailable (hxy.minLength ▸ hq)
  | found hq hheld => exact .found (hxy.minLength ▸ hq) (hxy.entries _ _ hheld)

/-- A load agrees with the store if it gives the entries that are stored, or none. -/
def Agrees (x : Index) (p : Partition) (outcome : Except Fault LoadResult) : Prop :=
  ∀ entries dropped, outcome = .ok (.loaded entries dropped) → x.store.entries? p = some entries

/-- The outcome of a load that agrees with the store answers what waits for it. -/
theorem Answers.ofOutcome {x : Index} {raw : String} {q : Prepared}
    {outcome : Except Fault LoadResult} (hq : prepare? raw x.minLength = some q)
    (hagrees : Agrees x q.partition outcome) :
    Answers x raw (.answered (outcome.map q.answerOf)) := by
  cases outcome with
  | error f => exact .fault f
  | ok result =>
      cases result with
      | loaded entries dropped => exact .found hq (hagrees entries dropped rfl)
      | failed reason => exact .unavailable hq

theorem Answers.settle {x : Index} {raw : String} {s : Search} {load : Nat}
    {outcome : Except Fault LoadResult} (h : Answers x raw s)
    (hagrees : ∀ q, s = .waiting q load → Agrees x q.partition outcome) :
    Answers x raw (s.settle load outcome) := by
  cases h with
  | waiting hq n =>
      rw [Search.settle]
      split
      · rename_i hn
        subst hn
        exact .ofOutcome hq (hagrees _ rfl)
      · exact .waiting hq n
  | short hq => exact .short hq
  | fault f => exact .fault f
  | unavailable hq => exact .unavailable hq
  | found hq hheld => exact .found hq hheld

/-! ## The invariant -/

/-- The searches of the index are answers to the queries, in order, and its loads agree with its
store. -/
structure Answering (x : Index) (queries : List String) : Prop extends Consistent x where
  length : x.searches.length = queries.length
  answers : ∀ (i : Nat) raw s, queries[i]? = some raw → x.searches[i]? = some s → Answers x raw s
  agrees : ∀ (i : Nat) p outcome, x.loads[i]? = some ⟨p, some outcome⟩ → Agrees x p outcome

namespace Answering

variable {x : Index} {queries : List String}

theorem empty (sectionName : String) (minLength : Int) :
    Answering (Index.empty sectionName minLength) [] where
  toConsistent := .empty sectionName minLength
  length := rfl
  answers i raw s h := by simp at h
  agrees i p outcome h := by simp [Index.empty] at h

theorem addLoad (h : Answering x queries) {p : Partition} {outcome : Except Fault LoadResult}
    (hagrees : Agrees x p outcome) : Answering (x.addLoad ⟨p, some outcome⟩).1 queries where
  toConsistent := h.toConsistent.addLoad p outcome
  length := h.length
  answers i raw s hraw hs := (h.answers i raw s hraw hs).mono (.addLoad x _)
  agrees i q o ho := by
    rcases getElem?_concat_eq_some.mp ho with ho | ⟨-, ho⟩
    · exact h.agrees i q o ho
    · cases ho
      exact hagrees

theorem load (h : Answering x queries) (p : Partition) :
    Answering (x.load p).1 queries := by
  rcases load_cases x p with ⟨entries, hslot, hload⟩ | ⟨_, hload⟩ | ⟨i, -, hload⟩ | ⟨hfree, hload⟩
  · rw [hload]
    apply h.addLoad
    intro entries' dropped heq
    cases heq
    exact Store.entries?_eq_some.mpr hslot
  · rw [hload]
    exact h.addLoad fun _ _ heq => by cases heq
  · rw [hload]
    exact h
  · have hextends : Extends x (x.enqueue p).1 := hload ▸ Extends.load x p
    rw [hload]
    exact {
      toConsistent := h.toConsistent.enqueue hfree
      length := h.length
      answers := fun i raw s hraw hs => (h.answers i raw s hraw hs).mono hextends
      agrees := by
        intro i q o ho
        rcases getElem?_concat_eq_some.mp ho with ho | ⟨-, ho⟩
        · exact h.agrees i q o ho
        · cases ho }

theorem warm (h : Answering x queries) (ps : List Partition) :
    Answering (x.warm ps).1 queries := by
  induction ps generalizing x with
  | nil => exact h
  | cons p ps ih => exact ih (h.load p)

/-! ## Searches -/

theorem addSearch (h : Answering x queries) {raw : String} {s : Search}
    (hwaiting : ∀ q n, s = .waiting q n → ⟨q.partition, n⟩ ∈ x.queue) (hs : Answers x raw s) :
    Answering (x.addSearch s).1 (queries ++ [raw]) where
  toConsistent := h.toConsistent.addSearch hwaiting
  length := by simp [Index.addSearch, h.length]
  answers i raw' s' hraw hs' := by
    have hextends : Extends x (x.addSearch s).1 := .addSearch x s
    rcases getElem?_concat_eq_some.mp hraw with hraw | ⟨hi, rfl⟩
    -- There are as many searches as queries, so the new search goes with the new query.
    · rcases getElem?_concat_eq_some.mp hs' with hs' | ⟨hi', -⟩
      · exact (h.answers i raw' s' hraw hs').mono hextends
      · have hlt := (List.getElem?_eq_some_iff.mp hraw).1
        have hlength := h.length
        omega
    · rcases getElem?_concat_eq_some.mp hs' with hs' | ⟨-, rfl⟩
      · have hlt := (List.getElem?_eq_some_iff.mp hs').1
        have hlength := h.length
        omega
      · exact hs.mono hextends
  agrees := h.agrees

/-- A search is answered from the store, or waits for a load that will agree with it. -/
theorem search (h : Answering x queries) (raw : String) :
    Answering (x.search raw).1 (queries ++ [raw]) := by
  rcases search_cases x raw with ⟨hq, hsearch⟩ | ⟨q, hq, ⟨entries, hheld, hsearch⟩ | ⟨-, hsearch⟩⟩
  · rw [hsearch]
    exact h.addSearch (fun _ _ hs => by cases hs) (.short hq)
  · rw [hsearch]
    exact h.addSearch (fun _ _ hs => by cases hs) (.found hq hheld)
  · have hload := h.load q.partition
    have hq' : prepare? raw (x.load q.partition).1.minLength = some q := by
      rw [(load_frame x q.partition).2.2.1]
      exact hq
    obtain ⟨outcome?, hnumber⟩ := h.loads_load q.partition
    rw [hsearch, follow]
    apply hload.addSearch
    · intro q' n hs
      split at hs
      · cases hs
      · rename_i hnone
        cases hs
        exact h.mem_queue_load q.partition hnone
    · split
      · rename_i outcome houtcome
        rw [loadOutcome?, hnumber] at houtcome
        cases houtcome
        exact .ofOutcome hq' (hload.agrees _ _ _ hnumber)
      · exact .waiting hq' _

/-! ## Ends of jobs -/

/-- A store that keeps its entries changes no answers. -/
theorem withStore (h : Answering x queries) {store : Store}
    (hkeeps : ∀ p held, x.store.entries? p = some held → store.entries? p = some held)
    (fetched : List String) (closed : Bool) :
    Answering { x with store, fetched, closed } queries where
  toConsistent := h.toConsistent.withStore store fetched closed
  length := h.length
  answers i raw s hraw hs := (h.answers i raw s hraw hs).mono (.withStore x hkeeps fetched closed)
  agrees i p outcome ho entries dropped heq :=
    hkeeps _ _ (h.agrees i p outcome ho entries dropped heq)

theorem complete (h : Answering x queries) {job : Job} (hjob : job ∈ x.queue)
    {outcome : Except Fault LoadResult} (hagrees : Agrees x job.partition outcome) :
    Answering (x.complete job outcome) queries where
  toConsistent := h.toConsistent.complete hjob outcome
  length := by
    rw [Index.complete]
    simpa using h.length
  answers i raw s hraw hs := by
    rw [searches_complete] at hs
    obtain ⟨s', hs', rfl⟩ := Option.map_eq_some_iff.mp hs
    have hanswers : Answers x raw (s'.settle job.load outcome) := by
      apply (h.answers i raw s' hraw hs').settle
      rintro q rfl
      -- What waits for this load waits for this job, so it asks for the job's partition.
      have hjob' := h.job_unique hjob (h.waiting i q _ hs') rfl
      have hpartition : job.partition = q.partition := congrArg Job.partition hjob'
      exact hpartition ▸ hagrees
    exact hanswers.mono (.complete x job outcome)
  agrees i p o ho := by
    rw [loads_complete] at ho
    obtain ⟨l, hl, hsame⟩ := Option.map_eq_some_iff.mp ho
    split at hsame
    · rename_i hi
      subst hi
      rw [h.job job hjob] at hl
      cases hl
      cases hsame
      exact hagrees
    · exact h.agrees i p o (hsame ▸ hl)

/-- A job that is run gives all that wait for it what the store then holds. -/
theorem runJob [Literal.Reader] (h : Answering x queries) {job : Job} (hjob : job ∈ x.queue)
    (fetch : String → Except Fault String) : Answering (x.runJob job fetch) queries := by
  have hstore := h.withStore (fun p held hp => note_keeps hp job.partition (x.fileOf job fetch))
    (x.fetched ++ [job.partition.fileName x.sectionName]) x.closed
  refine hstore.complete hjob fun entries dropped heq => ?_
  exact entries?_note_of_loaded (Except.ok.inj heq)

theorem run [Literal.Reader] (h : Answering x queries) (p? : Option Partition)
    (fetch : String → Except Fault String) : Answering (x.run p? fetch).1 queries := by
  unfold Index.run
  split
  · rename_i job hjob
    exact h.runJob (List.mem_of_find?_eq_some hjob) fetch
  · exact h

theorem breakOff (h : Answering x queries) (p : Partition) (f : Fault) :
    Answering (x.breakOff p f).1 queries := by
  unfold Index.breakOff
  split
  · rename_i job hjob
    exact h.complete (List.mem_of_find?_eq_some hjob) fun _ _ heq => by cases heq
  · exact h

theorem close (h : Answering x queries) : Answering x.close queries :=
  h.withStore (fun _ _ hp => hp) x.fetched true

end Answering

end DocIndex.Index
