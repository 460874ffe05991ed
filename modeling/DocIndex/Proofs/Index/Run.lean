import DocIndex.Proofs.Index.Answers
import DocIndex.Proofs.Index.Provenance
import DocIndex.Proofs.Store.Writes

/-! # Runs of an index

A run is any sequence of loads, searches, writes to the store from outside, and jobs that are run
or broken off. Each job that is run finds the files as they are served at that time.
-/

namespace DocIndex.Index

open PartitionFile

/-- What may happen to an index. -/
inductive Event where
  | load (p : Partition)
  | warm (ps : List Partition)
  | search (raw : String)
  | write (w : Store.Write)
  | run (p? : Option Partition) (fetch : String → Except Fault String)
  | breakOff (p : Partition) (f : Fault)
  | cancel (p : Partition)
  | close

/-! ## Loads and searches -/

/-- `y` may be `x` after loads and searches: there may be more jobs, for partitions of which
nothing is known, and more searches. -/
structure Asks (x y : Index) : Prop where
  store : y.store = x.store
  closed : y.closed = x.closed
  fetched : y.fetched = x.fetched
  searches : x.searches <+: y.searches
  queue : ∃ jobs, y.queue = x.queue ++ jobs ∧
    ∀ job ∈ jobs, x.store.slot job.partition = .unknown ∧ x.closed = false

namespace Asks

theorem refl (x : Index) : Asks x x :=
  ⟨rfl, rfl, rfl, List.prefix_refl _, [], by simp, by simp⟩

theorem trans {x y z : Index} (hxy : Asks x y) (hyz : Asks y z) : Asks x z where
  store := hyz.store.trans hxy.store
  closed := hyz.closed.trans hxy.closed
  fetched := hyz.fetched.trans hxy.fetched
  searches := hxy.searches.trans hyz.searches
  queue := by
    obtain ⟨jobs, hy, hjobs⟩ := hxy.queue
    obtain ⟨more, hz, hmore⟩ := hyz.queue
    rw [hxy.store, hxy.closed] at hmore
    refine ⟨jobs ++ more, by rw [hz, hy, List.append_assoc], fun job hjob => ?_⟩
    rcases List.mem_append.mp hjob with hjob | hjob
    · exact hjobs job hjob
    · exact hmore job hjob

theorem addLoad (x : Index) (l : Load) : Asks x (x.addLoad l).1 :=
  ⟨rfl, rfl, rfl, List.prefix_refl _, [], by simp [Index.addLoad], by simp⟩

theorem addSearch (x : Index) (s : Search) : Asks x (x.addSearch s).1 :=
  ⟨rfl, rfl, rfl, List.prefix_append _ _, [], by simp [Index.addSearch], by simp⟩

theorem load (x : Index) (p : Partition) : Asks x (x.load p).1 := by
  unfold Index.load settled?
  cases hslot : x.store.slot p with
  | loaded entries => exact addLoad x _
  | failed reason => exact addLoad x _
  | unknown =>
      cases x.inFlight p with
      | some i => exact refl x
      | none =>
          cases hclosed : x.closed with
          | true => exact addLoad x _
          | false =>
              refine ⟨rfl, rfl, rfl, List.prefix_refl _, [⟨p, x.loads.length⟩], rfl, ?_⟩
              simp [hslot, hclosed]

theorem warm (x : Index) (ps : List Partition) : Asks x (x.warm ps).1 := by
  induction ps generalizing x with
  | nil => exact refl x
  | cons p ps ih => exact (load x p).trans (ih (x.load p).1)

theorem search (x : Index) (raw : String) : Asks x (x.search raw).1 := by
  rcases search_cases x raw with ⟨-, hsearch⟩ | ⟨q, -, ⟨_, -, hsearch⟩ | ⟨-, hsearch⟩⟩
  · rw [hsearch]
    exact addSearch x _
  · rw [hsearch]
    exact addSearch x _
  · rw [hsearch, follow]
    exact (load x q.partition).trans (addSearch _ _)

end Asks

/-! ## What a file tells the store -/

/-- What the store is told of the file of a partition. -/
def told (p : Partition) : Except Fault Parsed → Store.Write
  | .ok parsed => .store p parsed.entries
  | .error f => .markFailed p f.reason

theorem note_store (s : Store) (p : Partition) (file : Except Fault Parsed) :
    (note s p file).1 = s.write (told p file) := by
  cases file <;> rfl

/-! ## Steps -/

variable [Literal.Reader]

def step (x : Index) : Event → Index
  | .load p => (x.load p).1
  | .warm ps => (x.warm ps).1
  | .search raw => (x.search raw).1
  | .write w => { x with store := x.store.write w }
  | .run p? fetch => (x.run p? fetch).1
  | .breakOff p f => (x.breakOff p f).1
  | .cancel p => (x.cancel p).1
  | .close => x.close

def after (x : Index) (events : List Event) : Index := events.foldl step x

/-- What each event preserves holds after all events. -/
theorem after_induction {motive : Index → Prop} {x : Index} {events : List Event}
    (hstart : motive x) (hstep : ∀ x, ∀ e ∈ events, motive x → motive (x.step e)) :
    motive (x.after events) :=
  List.foldlRecOn events step hstart fun x hx e he => hstep x e he hx

/-! ## Jobs that end -/

theorem step_run {x : Index} {p? : Option Partition} {job : Job} (hjob : x.nextJob? p? = some job)
    (fetch : String → Except Fault String) : x.step (.run p? fetch) = x.runJob job fetch := by
  rw [step, run, hjob]

/-- The job that an event ends, and what its load comes to. -/
def ending? (x : Index) : Event → Option (Job × Except Fault LoadResult)
  | .run p? fetch =>
    (x.nextJob? p?).map fun job => (job, .ok (note x.store job.partition (x.fileOf job fetch)).2)
  | .breakOff p f => (x.nextJob? (some p)).map fun job => (job, .error f)
  | .cancel p => (x.nextJob? (some p)).map fun job => (job, .error .cancelled)
  | .load _ | .warm _ | .search _ | .write _ | .close => none

/-- An event that ends a job leaves what `complete` leaves, but for the store and the fetches. -/
theorem step_of_ending {x : Index} {e : Event} {job : Job} {outcome : Except Fault LoadResult}
    (h : x.ending? e = some (job, outcome)) :
    job ∈ x.queue ∧
      ∃ store fetched, x.step e = { x with store, fetched }.complete job outcome := by
  have hcase : ∀ {p? : Option Partition} {outcome' : Job → Except Fault LoadResult},
      (x.nextJob? p?).map (fun job => (job, outcome' job)) = some (job, outcome) →
        x.nextJob? p? = some job ∧ outcome' job = outcome := by
    intro p? outcome' hmap
    obtain ⟨job', hjob, heq⟩ := Option.map_eq_some_iff.mp hmap
    cases heq
    exact ⟨hjob, rfl⟩
  cases e with
  | run p? fetch =>
      obtain ⟨hjob, rfl⟩ := hcase h
      exact ⟨List.mem_of_find?_eq_some hjob, _, _, step_run hjob fetch⟩
  | breakOff p f =>
      obtain ⟨hjob, rfl⟩ := hcase h
      exact ⟨List.mem_of_find?_eq_some hjob, _, _, by rw [step, breakOff, hjob]⟩
  | cancel p =>
      obtain ⟨hjob, rfl⟩ := hcase h
      exact ⟨List.mem_of_find?_eq_some hjob, _, _, by rw [step, cancel, breakOff, hjob]⟩
  | load _ | warm _ | search _ | write _ | close => cases h

/-- An event that ends no job asks for loads and searches at most, or is a write or the close. -/
theorem asks_of_not_ending {x : Index} {e : Event} (h : x.ending? e = none) :
    Asks x (x.step e) ∨ (∃ w, e = .write w) ∨ e = .close := by
  cases e with
  | load p => exact .inl (.load x p)
  | warm ps => exact .inl (.warm x ps)
  | search raw => exact .inl (.search x raw)
  | write w => exact .inr (.inl ⟨w, rfl⟩)
  | close => exact .inr (.inr rfl)
  | run p? fetch =>
      have hjob : x.nextJob? p? = none := Option.map_eq_none_iff.mp h
      exact .inl (by rw [step, run, hjob]; exact .refl x)
  | breakOff p f =>
      have hjob : x.nextJob? (some p) = none := Option.map_eq_none_iff.mp h
      exact .inl (by rw [step, breakOff, hjob]; exact .refl x)
  | cancel p =>
      have hjob : x.nextJob? (some p) = none := Option.map_eq_none_iff.mp h
      exact .inl (by rw [step, cancel, breakOff, hjob]; exact .refl x)

/-- An event that ends no job leaves all searches and jobs as they are. -/
theorem prefix_step_of_not_ending {x : Index} {e : Event} (h : x.ending? e = none) :
    x.searches <+: (x.step e).searches ∧ x.queue <+: (x.step e).queue := by
  rcases asks_of_not_ending h with hasks | ⟨w, rfl⟩ | rfl
  · obtain ⟨jobs, hqueue, -⟩ := hasks.queue
    exact ⟨hasks.searches, hqueue ▸ List.prefix_append _ _⟩
  · exact ⟨List.prefix_refl _, List.prefix_refl _⟩
  · exact ⟨List.prefix_refl _, List.prefix_refl _⟩

/-! ## The store -/

theorem store_step (x : Index) (e : Event) :
    (x.step e).store = x.store ∨ ∃ w, (x.step e).store = x.store.write w ∧
      (e = .write w ∨ ∃ job fetch, w = told job.partition (x.fileOf job fetch)) := by
  have hbreak : ∀ p f, (x.breakOff p f).1.store = x.store := by
    intro p f
    unfold Index.breakOff
    split <;> rfl
  cases e with
  | load p => exact .inl (Asks.load x p).store
  | warm ps => exact .inl (Asks.warm x ps).store
  | search raw => exact .inl (Asks.search x raw).store
  | write w => exact .inr ⟨w, rfl, .inl rfl⟩
  | run p? fetch =>
      cases hjob : x.nextJob? p? with
      | none => exact .inl (by rw [step, run, hjob])
      | some job =>
          refine .inr ⟨_, ?_, .inr ⟨job, fetch, rfl⟩⟩
          rw [step_run hjob, ← note_store]
          rfl
  | breakOff p f => exact .inl (hbreak p f)
  | cancel p => exact .inl (hbreak p .cancelled)
  | close => exact .inl rfl

theorem told_ordered (x : Index) (job : Job) (fetch : String → Except Fault String) :
    (told job.partition (x.fileOf job fetch)).Ordered := by
  cases hfile : x.fileOf job fetch with
  | error f => trivial
  | ok parsed =>
      obtain ⟨text, -, hparse⟩ := readFile_eq_ok hfile
      exact parse_ordered hparse

/-- The stored entries stay in key order if none are stored from outside that are not. -/
theorem ordered_step {x : Index} (h : x.store.Ordered) {e : Event}
    (he : ∀ w, e = .write w → w.Ordered) : (x.step e).store.Ordered := by
  rcases store_step x e with hstore | ⟨w, hstore, hw | ⟨job, fetch, rfl⟩⟩
  · exact hstore ▸ h
  · exact hstore ▸ Store.ordered_write h (he w hw)
  · exact hstore ▸ Store.ordered_write h (told_ordered x job fetch)

/-! ## What a run keeps -/

namespace Extends

theorem step (x : Index) (e : Event) : Extends x (x.step e) := by
  cases e with
  | load p => exact load x p
  | warm ps => exact warm x ps
  | search raw => exact search x raw
  | write w => exact withStore x (fun _ _ h => Store.entries?_write h w) x.fetched x.closed
  | run p? fetch => exact run x p? fetch
  | breakOff p f => exact breakOff x p f
  | cancel p => exact breakOff x p .cancelled
  | close => exact withStore x (fun _ _ h => h) x.fetched true

theorem after (x : Index) (events : List Event) : Extends x (x.after events) :=
  after_induction (.refl x) fun y e _ hy => hy.trans (.step y e)

end Extends

def Event.queries : Event → List String
  | .search raw => [raw]
  | _ => []

/-- The queries of all searches, the oldest first. -/
def queries (events : List Event) : List String := events.flatMap Event.queries

theorem Answering.step {x : Index} {raws : List String} (h : Answering x raws) (e : Event) :
    Answering (x.step e) (raws ++ e.queries) := by
  have hsame : ∀ {y : Index}, Answering y raws → Answering y (raws ++ []) := fun hy =>
    (List.append_nil raws).symm ▸ hy
  cases e with
  | search raw => exact h.search raw
  | load p => exact hsame (h.load p)
  | warm ps => exact hsame (h.warm ps)
  | write w =>
      exact hsame (h.withStore (fun _ _ hp => Store.entries?_write hp w) x.fetched x.closed)
  | run p? fetch => exact hsame (h.run p? fetch)
  | breakOff p f => exact hsame (h.breakOff p f)
  | cancel p => exact hsame (h.breakOff p .cancelled)
  | close => exact hsame h.close

theorem Answering.after {x : Index} {raws : List String} (h : Answering x raws)
    (events : List Event) : Answering (x.after events) (raws ++ queries events) := by
  induction events generalizing x raws with
  | nil => simpa [queries, Index.after] using h
  | cons e events ih => simpa [queries, Index.after] using ih (h.step e)

theorem after_answering (sectionName : String) (minLength : Int) (events : List Event) :
    Answering ((empty sectionName minLength).after events) (queries events) :=
  (Answering.empty sectionName minLength).after events

end DocIndex.Index
