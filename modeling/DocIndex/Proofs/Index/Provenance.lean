import DocIndex.Proofs.Index.Growth
import DocIndex.Proofs.PartitionFile.Collection

/-! # Where entries come from

The entries that an index holds of a partition were read from some text that was fetched for the
file of the partition.
-/

namespace DocIndex.Index

open PartitionFile

/-- A fetch: the name of the file, and its text or the fault that took its place. -/
structure Fetch where
  name : String
  outcome : Except Fault String

variable [Literal.Reader]

/-- The entries are those of the text that some fetch of the partition's file gave. -/
def ReadFrom (sectionName : String) (fetches : List Fetch) (p : Partition)
    (entries : List Entry) : Prop :=
  ∃ f ∈ fetches, f.name = p.fileName sectionName ∧
    ∃ text parsed, f.outcome = .ok text ∧ parse text (some p) = .ok parsed ∧
      parsed.entries = entries

/-- All entries that the index holds were read from fetched files. -/
def Served (x : Index) (fetches : List Fetch) : Prop :=
  ∀ p held, x.store.entries? p = some held → ReadFrom x.sectionName fetches p held

theorem ReadFrom.mono {sectionName : String} {fetches more : List Fetch} {p : Partition}
    {entries : List Entry} (h : ReadFrom sectionName fetches p entries) :
    ReadFrom sectionName (fetches ++ more) p entries := by
  obtain ⟨f, hf, hread⟩ := h
  exact ⟨f, List.mem_append_left _ hf, hread⟩

/-- Entries read from a file are in key order. -/
theorem parse_ordered {text : String} {partition? : Option Partition} {parsed : Parsed}
    (h : parse text partition? = .ok parsed) :
    parsed.entries.Pairwise fun a b => a.key ≤ b.key :=
  (parse_pairwise h).imp Std.le_of_lt

theorem ReadFrom.pairwise {sectionName : String} {fetches : List Fetch} {p : Partition}
    {entries : List Entry} (h : ReadFrom sectionName fetches p entries) :
    entries.Pairwise fun a b => a.key ≤ b.key := by
  obtain ⟨-, -, -, text, parsed, -, hparse, rfl⟩ := h
  exact parse_ordered hparse

theorem readFile_eq_ok {fetch : String → Except Fault String} {name : String} {p : Partition}
    {parsed : Parsed} (h : readFile fetch name p = .ok parsed) :
    ∃ text, fetch name = .ok text ∧ parse text (some p) = .ok parsed := by
  rw [readFile_eq] at h
  cases hfetch : fetch name with
  | error f =>
      rw [hfetch] at h
      cases h
  | ok text =>
      refine ⟨text, rfl, ?_⟩
      have hparsed : (parse text (some p)).mapError (·.toFault) = .ok parsed := by
        rw [hfetch] at h
        exact h
      cases hparse : parse text (some p) with
      | error e =>
          rw [hparse] at hparsed
          cases hparsed
      | ok parsed' =>
          rw [hparse] at hparsed
          cases hparsed
          rfl

namespace Served

variable {x y : Index} {fetches : List Fetch}

theorem empty (sectionName : String) (minLength : Int) :
    Served (Index.empty sectionName minLength) [] := by
  intro p held h
  cases h

/-- What holds no other entries is served as well. -/
theorem of_entries (h : Served x fetches) (hsection : y.sectionName = x.sectionName)
    (hentries : ∀ p, y.store.entries? p = x.store.entries? p) : Served y fetches := by
  intro p held hheld
  rw [hsection]
  exact h p held (hentries p ▸ hheld)

theorem load (h : Served x fetches) (p : Partition) : Served (x.load p).1 fetches := by
  obtain ⟨hstore, -, -, hsection⟩ := load_frame x p
  exact h.of_entries hsection fun q => by rw [hstore]

theorem warm (h : Served x fetches) (ps : List Partition) : Served (x.warm ps).1 fetches := by
  induction ps generalizing x with
  | nil => exact h
  | cons p ps ih => exact ih (h.load p)

theorem search (h : Served x fetches) (raw : String) : Served (x.search raw).1 fetches := by
  rcases search_cases x raw with ⟨-, hsearch⟩ | ⟨q, -, ⟨_, -, hsearch⟩ | ⟨-, hsearch⟩⟩
  · rw [hsearch]
    exact h
  · rw [hsearch]
    exact h
  · rw [hsearch]
    exact h.load q.partition

/-- A job that is run adds its own fetch. -/
theorem runJob (h : Served x fetches) (job : Job) (fetch : String → Except Fault String) :
    Served (x.runJob job fetch) (fetches ++
      [⟨job.partition.fileName x.sectionName,
        fetch (job.partition.fileName x.sectionName)⟩]) := by
  intro p held hheld
  have hnote : (note x.store job.partition (x.fileOf job fetch)).1.entries? p = some held := hheld
  have hsection : (x.runJob job fetch).sectionName = x.sectionName := rfl
  rw [hsection]
  rw [entries?_note] at hnote
  cases hfile : x.fileOf job fetch with
  | error f =>
      rw [hfile] at hnote
      exact (h p held hnote).mono
  | ok parsed =>
      rw [hfile] at hnote
      dsimp only at hnote
      split at hnote
      · rename_i hp
        cases hold : x.store.entries? job.partition with
        | some held' =>
            rw [hold] at hnote
            subst hp
            exact (h job.partition held (hold.trans hnote)).mono
        | none =>
            rw [hold] at hnote
            cases hnote
            subst hp
            obtain ⟨text, hfetch, hparse⟩ := readFile_eq_ok hfile
            exact ⟨_, List.mem_append_right _ (List.mem_singleton_self _), rfl, text, parsed,
              hfetch, hparse, rfl⟩
      · exact (h p held hnote).mono

theorem breakOff (h : Served x fetches) (p : Partition) (f : Fault) :
    Served (x.breakOff p f).1 fetches := by
  unfold Index.breakOff
  split
  · exact h
  · exact h

end Served

end DocIndex.Index
