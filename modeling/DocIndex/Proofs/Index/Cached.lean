import DocIndex.Proofs.Index.Run

/-! # Answers from the store

The store alone answers a query as a search would, and a search that it can answer begins no work.
What a search has found, the store answers ever after.
-/

namespace DocIndex.Index

open Query

variable {x : Index} {raw : String} {result : SearchResult}

/-! ## One search -/

/-- `y` is `x` but for what has been asked and answered: nothing is begun, ended or told. -/
structure Rests (x y : Index) : Prop where
  store : y.store = x.store
  inFlight : y.inFlight = x.inFlight
  queue : y.queue = x.queue
  fetched : y.fetched = x.fetched

namespace Rests

theorem refl (x : Index) : Rests x x := ⟨rfl, rfl, rfl, rfl⟩

theorem addLoad (x : Index) (l : Load) : Rests x (x.addLoad l).1 := ⟨rfl, rfl, rfl, rfl⟩

theorem addSearch {y : Index} (h : Rests x y) (s : Search) : Rests x (y.addSearch s).1 :=
  ⟨h.store, h.inFlight, h.queue, h.fetched⟩

end Rests

theorem searchOutcome?_addSearch (x : Index) (outcome : Except Fault SearchResult) :
    (x.addSearch (.answered outcome)).1.searchOutcome? (x.addSearch (.answered outcome)).2 =
      some outcome := by
  simp [addSearch, searchOutcome?, Search.outcome?]

/-- The load of a partition that could not be had is done at once. -/
theorem load_of_failed {p : Partition} {reason : String} (h : x.store.slot p = .failed reason) :
    x.load p = x.addLoad ⟨p, some (.ok (.failed reason))⟩ := by
  simp [load, settled?, h]

theorem follow_addLoad (x : Index) (q : Prepared) (outcome : Except Fault LoadResult) :
    (x.addLoad ⟨q.partition, some outcome⟩).1.follow q (x.addLoad ⟨q.partition, some outcome⟩).2 =
      (x.addLoad ⟨q.partition, some outcome⟩).1.addSearch (.answered (outcome.map q.answerOf)) := by
  simp [follow, addLoad, loadOutcome?]

/-- The store answers queries too short, and those whose partition is stored or cannot be had. -/
theorem searchCached_cases (h : x.searchCached raw = some result) :
    (prepare? raw x.minLength = none ∧ result = .ofShort raw) ∨
    ∃ q, prepare? raw x.minLength = some q ∧
      ((∃ held, x.store.entries? q.partition = some held ∧ result = q.answerIn held) ∨
      ∃ reason, x.store.slot q.partition = .failed reason ∧ result = q.unavailable) := by
  unfold searchCached at h
  cases hq : prepare? raw x.minLength with
  | none =>
      rw [hq] at h
      exact .inl ⟨rfl, (Option.some.inj h).symm⟩
  | some q =>
      refine .inr ⟨q, rfl, ?_⟩
      rw [hq] at h
      dsimp only at h
      cases hslot : x.store.slot q.partition with
      | unknown =>
          rw [hslot] at h
          cases h
      | loaded held =>
          rw [hslot] at h
          exact .inl ⟨held, Store.entries?_eq_some.mpr hslot, (Option.some.inj h).symm⟩
      | failed reason =>
          rw [hslot] at h
          exact .inr ⟨reason, rfl, (Option.some.inj h).symm⟩

/-- What the store can answer, a search is answered at once, and nothing is begun for it. -/
theorem search_of_searchCached (h : x.searchCached raw = some result) :
    (x.search raw).1.searchOutcome? (x.search raw).2 = some (.ok result) ∧
      Rests x (x.search raw).1 := by
  rcases searchCached_cases h with
    ⟨hq, rfl⟩ | ⟨q, hq, ⟨held, hheld, rfl⟩ | ⟨reason, hslot, rfl⟩⟩
  · rw [search, hq]
    exact ⟨searchOutcome?_addSearch x _, (Rests.refl x).addSearch _⟩
  · simp only [search, hq, hheld]
    exact ⟨searchOutcome?_addSearch x _, (Rests.refl x).addSearch _⟩
  · have hnone := (Store.slot_eq_failed.mp hslot).1
    simp only [search, hq, hnone, load_of_failed hslot, follow_addLoad]
    exact ⟨searchOutcome?_addSearch _ _, (Rests.addLoad x _).addSearch _⟩

/-- The store gives the answer of a search that has not failed. -/
theorem Answers.searchCached (h : Answers x raw (.answered (.ok result)))
    (hfound : result.failed = false) : x.searchCached raw = some result := by
  cases h with
  | short hq => simp [Index.searchCached, hq]
  | unavailable hq => cases hfound
  | found hq hheld => simp [Index.searchCached, hq, Store.entries?_eq_some.mp hheld]

/-! ## Any run -/

/-- The answers of the store and of the searches for `raws` agree, now and later. -/
structure SearchesAgree [Literal.Reader] (x : Index) (raws : List String) : Prop where
  /-- A search that the store can answer is answered with the same result, and changes nothing
  else. -/
  cached : ∀ raw result, x.searchCached raw = some result →
    (x.search raw).1.searchOutcome? (x.search raw).2 = some (.ok result) ∧
      Rests x (x.search raw).1
  /-- What a search has found, the store answers after any more events. -/
  found : ∀ i raw result, raws[i]? = some raw → x.searchOutcome? i = some (.ok result) →
    result.failed = false → ∀ more, (x.after more).searchCached raw = some result

/-- After any run, the store and the searches agree on all that has been asked. -/
theorem after_searches_agree [Literal.Reader] (sectionName : String) (minLength : Int)
    (events : List Event) :
    SearchesAgree ((empty sectionName minLength).after events) (queries events) := by
  refine ⟨fun _ _ => search_of_searchCached, fun i raw result hraw houtcome hfound more => ?_⟩
  have h := after_answering sectionName minLength events
  obtain ⟨s, hs, hanswered⟩ := Option.bind_eq_some_iff.mp houtcome
  cases s with
  | waiting q n => cases hanswered
  | answered outcome =>
      cases hanswered
      exact ((h.answers i raw _ hraw hs).mono (.after _ more)).searchCached hfound

end DocIndex.Index
