import DocIndex.Proofs.Index.Bookkeeping
import DocIndex.Proofs.Store.Slots

/-! # What an index keeps

A partition that has its entries keeps them, and a search that has its outcome keeps it, whatever
happens later.
-/

namespace DocIndex.Index

open PartitionFile

/-! ## Stored entries -/

/-- A file that has been read gives its partition the entries it had, or else its own. -/
theorem entries?_note (s : Store) (p : Partition) (file : Except Fault Parsed) (q : Partition) :
    (note s p file).1.entries? q =
      match file with
      | .ok parsed => if q = p then some ((s.entries? p).getD parsed.entries) else s.entries? q
      | .error _ => s.entries? q := by
  cases file with
  | ok parsed => exact s.entries?_store p parsed.entries q
  | error f => exact s.entries?_markFailed p f.reason q

theorem note_keeps {s : Store} {q : Partition} {held : List Entry}
    (h : s.entries? q = some held) (p : Partition) (file : Except Fault Parsed) :
    (note s p file).1.entries? q = some held := by
  rw [entries?_note]
  cases file with
  | ok parsed =>
      dsimp only
      split
      · rename_i hq
        rw [← hq, h]
        rfl
      · exact h
  | error f => exact h

/-- The entries that a load gives are those of the store. -/
theorem entries?_note_of_loaded {s : Store} {p : Partition} {file : Except Fault Parsed}
    {entries : List Entry} {dropped : Nat}
    (h : (note s p file).2 = .loaded entries dropped) :
    (note s p file).1.entries? p = some entries := by
  cases file with
  | ok parsed =>
      have hentries : ((s.store p parsed.entries).1.entries? p).getD parsed.entries = entries :=
        (LoadResult.loaded.inj h).1
      have hnote : (note s p (.ok parsed)).1 = (s.store p parsed.entries).1 := rfl
      rw [hnote, ← hentries, Store.entries?_store, if_pos rfl]
      rfl
  | error f => cases h

/-! ## Later states -/

/-- `y` may be a later state of `x`: what is stored or answered in `x` is so in `y`. -/
structure Extends (x y : Index) : Prop where
  sectionName : y.sectionName = x.sectionName
  minLength : y.minLength = x.minLength
  entries : ∀ p held, x.store.entries? p = some held → y.store.entries? p = some held
  outcomes : ∀ i outcome, x.searchOutcome? i = some outcome → y.searchOutcome? i = some outcome

namespace Extends

theorem refl (x : Index) : Extends x x := ⟨rfl, rfl, fun _ _ h => h, fun _ _ h => h⟩

theorem trans {x y z : Index} (hxy : Extends x y) (hyz : Extends y z) : Extends x z where
  sectionName := hyz.sectionName.trans hxy.sectionName
  minLength := hyz.minLength.trans hxy.minLength
  entries p held h := hyz.entries p held (hxy.entries p held h)
  outcomes i outcome h := hyz.outcomes i outcome (hxy.outcomes i outcome h)

theorem addLoad (x : Index) (l : Load) : Extends x (x.addLoad l).1 :=
  ⟨rfl, rfl, fun _ _ h => h, fun _ _ h => h⟩

theorem load (x : Index) (p : Partition) : Extends x (x.load p).1 := by
  obtain ⟨hstore, hsearches, hlength, hsection⟩ := load_frame x p
  refine ⟨hsection, hlength, fun q held h => hstore ▸ h, fun i outcome h => ?_⟩
  rw [searchOutcome?, hsearches]
  exact h

theorem warm (x : Index) (ps : List Partition) : Extends x (x.warm ps).1 := by
  induction ps generalizing x with
  | nil => exact .refl x
  | cons p ps ih => exact (load x p).trans (ih (x.load p).1)

theorem addSearch (x : Index) (s : Search) : Extends x (x.addSearch s).1 where
  sectionName := rfl
  minLength := rfl
  entries _ _ h := h
  outcomes i outcome h := by
    obtain ⟨s', hs', houtcome⟩ := Option.bind_eq_some_iff.mp h
    exact Option.bind_eq_some_iff.mpr ⟨s', getElem?_concat_eq_some.mpr (.inl hs'), houtcome⟩

theorem search (x : Index) (raw : String) : Extends x (x.search raw).1 := by
  rcases search_cases x raw with ⟨-, hsearch⟩ | ⟨q, -, ⟨_, -, hsearch⟩ | ⟨-, hsearch⟩⟩
  · rw [hsearch]
    exact addSearch x _
  · rw [hsearch]
    exact addSearch x _
  · rw [hsearch, follow]
    exact (load x q.partition).trans (addSearch _ _)

theorem withStore (x : Index) {store : Store}
    (hkeeps : ∀ p held, x.store.entries? p = some held → store.entries? p = some held)
    (fetched : List String) (closed : Bool) : Extends x { x with store, fetched, closed } :=
  ⟨rfl, rfl, hkeeps, fun _ _ h => h⟩

theorem complete (x : Index) (job : Job) (outcome : Except Fault LoadResult) :
    Extends x (x.complete job outcome) where
  sectionName := rfl
  minLength := rfl
  entries _ _ h := h
  outcomes i o h := by
    obtain ⟨s, hs, ho⟩ := Option.bind_eq_some_iff.mp h
    cases s with
    | waiting q n => cases ho
    | answered o' =>
        rw [searchOutcome?, searches_complete, hs]
        exact ho

theorem runJob [Literal.Reader] (x : Index) (job : Job) (fetch : String → Except Fault String) :
    Extends x (x.runJob job fetch) := by
  have hstore := withStore x (fun p held hp => note_keeps hp job.partition (x.fileOf job fetch))
    (x.fetched ++ [job.partition.fileName x.sectionName]) x.closed
  exact hstore.trans (complete _ job _)

theorem run [Literal.Reader] (x : Index) (p? : Option Partition)
    (fetch : String → Except Fault String) :
    Extends x (x.run p? fetch).1 := by
  unfold Index.run
  split
  · exact runJob x _ fetch
  · exact .refl x

theorem breakOff (x : Index) (p : Partition) (f : Fault) : Extends x (x.breakOff p f).1 := by
  unfold Index.breakOff
  split
  · exact complete x _ _
  · exact .refl x

end Extends

end DocIndex.Index
