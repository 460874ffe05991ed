import DocIndex.Proofs.Index.Run
import DocIndex.Proofs.Query.Filtering

/-! # Searches that wait

A search without an answer waits for a job in the queue. The event that ends the job answers all
searches that wait for it, each from its own query, and an answer stays.
-/

namespace DocIndex.Index

open Query

variable {x : Index} {raws : List String} {e : Event} {job : Job}
  {outcome : Except Fault LoadResult} {i : Nat} {raw : String}

/-! ## Before the end of a job -/

/-- A search without an answer waits for a job for the partition of its query. -/
theorem Answering.waiting_of_unanswered (h : Answering x raws) (hraw : raws[i]? = some raw)
    (hnone : x.searchOutcome? i = none) :
    ∃ q n, prepare? raw x.minLength = some q ∧ x.searches[i]? = some (.waiting q n) ∧
      ⟨q.partition, n⟩ ∈ x.queue := by
  have hlt : i < x.searches.length := h.length ▸ (List.getElem?_eq_some_iff.mp hraw).1
  have hs : x.searches[i]? = some x.searches[i] := List.getElem?_eq_getElem hlt
  have hanswers := h.answers i raw _ hraw hs
  cases hsearch : x.searches[i] with
  | answered answer => simp [searchOutcome?, hs, hsearch, Search.outcome?] at hnone
  | waiting q n =>
      rw [hsearch] at hs hanswers
      cases hanswers with
      | waiting hq _ => exact ⟨q, n, hq, hs, h.waiting i q n hs⟩

section Reading

variable [Literal.Reader]

theorem searchOutcome?_step_of_not_ending (hend : x.ending? e = none)
    (hlt : i < x.searches.length) : (x.step e).searchOutcome? i = x.searchOutcome? i := by
  obtain ⟨more, hmore⟩ := (prefix_step_of_not_ending hend).1
  rw [searchOutcome?, searchOutcome?, ← hmore, List.getElem?_append_left hlt]

/-! ## The end of a job -/

theorem Consistent.loads_step_of_ending (h : Consistent x)
    (hend : x.ending? e = some (job, outcome)) :
    (x.step e).loads[job.load]? = some ⟨job.partition, some outcome⟩ := by
  obtain ⟨hjob, store, fetched, hstep⟩ := step_of_ending hend
  rw [hstep, loads_complete]
  simp [h.job job hjob]

/-- The end of a job answers the searches that wait for its partition, and no others. -/
theorem Answering.searchOutcome?_step_of_ending (h : Answering x raws)
    (hend : x.ending? e = some (job, outcome)) {q : Prepared} (hraw : raws[i]? = some raw)
    (hq : prepare? raw x.minLength = some q) (hnone : x.searchOutcome? i = none) :
    (x.step e).searchOutcome? i =
      if q.partition = job.partition then some (outcome.map q.answerOf) else none := by
  obtain ⟨q', n, hq', hsearch, hwait⟩ := h.waiting_of_unanswered hraw hnone
  cases hq.symm.trans hq'
  obtain ⟨hjob, store, fetched, hstep⟩ := step_of_ending hend
  have hload := h.load_eq_iff hwait hjob
  rw [hstep, searchOutcome?, searches_complete]
  by_cases hp : q.partition = job.partition
  · simp [hsearch, Search.settle, hload.mpr hp, hp, Search.outcome?]
  · have hne : n ≠ job.load := fun hn => hp (hload.mp hn)
    simp [hsearch, Search.settle, hne, hp, Search.outcome?]

/-! ## What is answered -/

/-- What a search for `q` is told at the end of the load that it waits for. -/
structure Tells (q : Prepared) (outcome : Except Fault LoadResult)
    (answer : Except Fault SearchResult) : Prop where
  /-- Its own matches among the entries that are loaded. Bisection finds them all if the entries
  are in key order. -/
  found : ∀ entries dropped, outcome = .ok (.loaded entries dropped) →
    ∃ result, answer = .ok result ∧ result.failed = false ∧ result.normalized = q.normalized ∧
      result.entries = filterByKey entries q.normalized ∧
      (entries.Pairwise (fun a b => a.key ≤ b.key) →
        result.entries = entries.filter (matchesKey q.normalized))
  unavailable : ∀ reason, outcome = .ok (.failed reason) →
    ∃ result, answer = .ok result ∧ result.failed = true ∧ result.entries = []
  fault : ∀ f, outcome = .error f → answer = .error f

omit [Literal.Reader] in
theorem tells_answerOf (q : Prepared) (outcome : Except Fault LoadResult) :
    Tells q outcome (outcome.map q.answerOf) := by
  refine ⟨?_, ?_, ?_⟩
  · rintro entries dropped rfl
    exact ⟨q.answerIn entries, rfl, rfl, rfl, rfl, filterByKey_eq_filter q.normalized⟩
  · rintro reason rfl
    exact ⟨q.unavailable, rfl, rfl, rfl⟩
  · rintro f rfl
    rfl

/-- All searches are answered by the end of the job that they wait for, once. -/
structure AnswersWaiting (x : Index) (events : List Event) : Prop where
  /-- There is a search for each query. If it has no answer, its partition is in flight, with a
  job in the queue. -/
  waiting : x.searches.length = (queries events).length ∧
    ∀ i raw, (queries events)[i]? = some raw → x.searchOutcome? i = none →
      ∃ q n, prepare? raw x.minLength = some q ∧ x.inFlight q.partition = some n ∧
        ⟨q.partition, n⟩ ∈ x.queue
  /-- The end of a job tells its outcome to all searches that wait for its partition. -/
  ended : ∀ e job outcome, x.ending? e = some (job, outcome) →
    (x.step e).loadOutcome? job.load = some outcome ∧
    ∀ i raw q, (queries events)[i]? = some raw → prepare? raw x.minLength = some q →
      x.searchOutcome? i = none → q.partition = job.partition →
        ∃ answer, (x.step e).searchOutcome? i = some answer ∧ Tells q outcome answer
  /-- No other event answers a search that waits. -/
  unended : ∀ e i raw q, (queries events)[i]? = some raw → prepare? raw x.minLength = some q →
    x.searchOutcome? i = none →
      (∀ job outcome, x.ending? e = some (job, outcome) → q.partition ≠ job.partition) →
        (x.step e).searchOutcome? i = none
  /-- An answer stays. -/
  answered : ∀ more i answer, x.searchOutcome? i = some answer →
    (x.after more).searchOutcome? i = some answer
  /-- Loaded entries are in key order, unless others have been stored from outside. -/
  ordered : (∀ w, .write w ∈ events → w.Ordered) → ∀ e job entries dropped,
    x.ending? e = some (job, .ok (.loaded entries dropped)) →
      entries.Pairwise fun a b => a.key ≤ b.key

theorem Answering.ordered_of_ending (h : Answering x raws) (hordered : x.store.Ordered)
    {entries : List Entry} {dropped : Nat}
    (hend : x.ending? e = some (job, .ok (.loaded entries dropped))) :
    entries.Pairwise fun a b => a.key ≤ b.key := by
  -- The entries of a load that ends are those of the store.
  have hstored := (h.step e).agrees _ _ _ (h.loads_step_of_ending hend) entries dropped rfl
  refine ordered_step hordered (fun w hw => ?_) _ _ hstored
  subst hw
  cases hend

theorem after_ordered (sectionName : String) (minLength : Int) (events : List Event)
    (h : ∀ w, .write w ∈ events → w.Ordered) :
    ((empty sectionName minLength).after events).store.Ordered := by
  refine after_induction (motive := fun x => x.store.Ordered) ?_ fun x e he hx => ?_
  · intro p held hheld
    cases hheld
  · exact ordered_step hx fun w hw => h w (hw ▸ he)

/-- After any run, every search that waits is answered by the end of its job, from the outcome of
the load and its own query, and by nothing else. -/
theorem after_answers_waiting (sectionName : String) (minLength : Int) (events : List Event) :
    AnswersWaiting ((empty sectionName minLength).after events) events := by
  have h := after_answering sectionName minLength events
  have hordered := after_ordered sectionName minLength events
  generalize (empty sectionName minLength).after events = x at h hordered
  refine ⟨⟨h.length, ?_⟩, ?_, ?_, ?_, ?_⟩
  · intro i raw hraw hnone
    obtain ⟨q, n, hq, -, hwait⟩ := h.waiting_of_unanswered hraw hnone
    exact ⟨q, n, hq, (h.inFlight _ _).mpr hwait, hwait⟩
  · intro e job outcome hend
    refine ⟨by simp [loadOutcome?, h.loads_step_of_ending hend], ?_⟩
    intro i raw q hraw hq hnone hp
    have hanswer := h.searchOutcome?_step_of_ending hend hraw hq hnone
    exact ⟨_, hanswer.trans (if_pos hp), tells_answerOf q outcome⟩
  · intro e i raw q hraw hq hnone hother
    cases hend : x.ending? e with
    | none =>
        have hlt : i < x.searches.length := h.length ▸ (List.getElem?_eq_some_iff.mp hraw).1
        rw [searchOutcome?_step_of_not_ending hend hlt, hnone]
    | some ended =>
        rw [h.searchOutcome?_step_of_ending hend hraw hq hnone]
        exact if_neg (hother _ _ hend)
  · intro more i answer hanswer
    exact (Extends.after x more).outcomes i answer hanswer
  · intro hwrites e job entries dropped hend
    exact h.ordered_of_ending (hordered hwrites) hend

end Reading

/-! ## Entries out of order -/

def axle : Entry where
  key := "axle"
  label := "axle"
  hits := [⟨"cart.html#axle", "", "cart.h", none, by decide⟩]
  key_ne := by decide
  hits_ne := by simp
  normalize_label := by decide

def acorn : Entry where
  key := "acorn"
  label := "acorn"
  hits := [⟨"oak.html#acorn", "", "oak.h", none, by decide⟩]
  key_ne := by decide
  hits_ne := by simp
  normalize_label := by decide

/-- A search waits while entries that are not in key order are stored from outside. -/
def unorderedEvents : List Event :=
  [.search "ac", .write (.store (Partition.ofKey "ac") [axle, acorn])]

section

attribute [local instance] Literal.Reader.plain

/-- The index once the search has its answer. -/
def unordered : Index :=
  ((empty "all" 1).after unorderedEvents).step (.run none fun _ => .ok "var searchData=[];")

/-- Among entries that are not in key order a match can be missed. -/
theorem unordered_match_missed :
    (((empty "all" 1).after unorderedEvents).searchOutcome? 0).isNone ∧
      (unordered.loadOutcome? 0).bind Except.toOption = some (.loaded [axle, acorn] 0) ∧
      (unordered.searchOutcome? 0).bind Except.toOption = some ⟨"ac", "ac", some []⟩ ∧
      [axle, acorn].filter (matchesKey "ac") = [acorn] := by
  decide +kernel

end

end DocIndex.Index
