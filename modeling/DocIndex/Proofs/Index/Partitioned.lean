import DocIndex.Index.Search
import DocIndex.Proofs.Partition.Routing
import DocIndex.Proofs.PartitionFile.RoundTrip
import DocIndex.Proofs.Query.Filtering
import DocIndex.Proofs.Store.Slots

/-! # Searching a partitioned index

Each entry of an index is written in the file of its partition. A search reads one file only, and
finds what a search through all entries would find.
-/

namespace DocIndex.Index

open PartitionFile Query

/-! ## Queries -/

theorem prepare?_eq_some {raw : String} {minLength : Int}
    (h : max 1 minLength ≤ ((trimStart raw).length : Int)) :
    prepare? raw (max 1 minLength) =
      some ⟨trimStart raw, Key.normalize (trimStart raw), Partition.ofQuery (trimStart raw)⟩ := by
  have hmax : max 1 (max 1 minLength) = max 1 minLength := by omega
  have hlong : ¬((trimStart raw).length : Int) < max 1 minLength := by omega
  rw [prepare?, hmax]
  exact if_neg hlong

theorem trimStart_ne_empty {raw : String} {minLength : Int}
    (h : max 1 minLength ≤ ((trimStart raw).length : Int)) : trimStart raw ≠ "" := by
  intro hempty
  rw [hempty] at h
  have hzero : ("".length : Int) = 0 := rfl
  omega

/-! ## The file of a partition -/

/-- The entries of the index that are in a partition. -/
def entriesIn (p : Partition) (entries : List Entry) : List Entry :=
  entries.filter fun e => Partition.ofKey e.key = p

/-- The file of a partition is read as the partition's entries in key order. -/
theorem readFile_dump [Literal.Reader] {entries : List Entry} {fetch : String → Except Fault String}
    {name : String} {p : Partition} (hkeys : entries.Pairwise fun a b => a.key ≠ b.key)
    (hfetch : fetch name = .ok (dump (entriesIn p entries) defaultName)) :
    ∃ parsed, readFile fetch name p = .ok parsed ∧
      parsed.entries = (Entry.sort (entriesIn p entries)).map Entry.asRead := by
  have hname : IsBindingName defaultName := by decide
  have hadmits : ∀ e ∈ (Entry.sort (entriesIn p entries)).map Entry.asRead,
      admits (some p) e.key = true := by
    intro e he
    obtain ⟨a, ha, rfl⟩ := List.mem_map.mp he
    have hp := (List.mem_filter.mp (Entry.mem_sort.mp ha)).2
    simpa [admits] using hp
  have hordered : ((Entry.sort (entriesIn p entries)).map Entry.asRead).Pairwise
      fun a b => a.key < b.key :=
    List.pairwise_map.mpr (Entry.sort_pairwise_lt (hkeys.filter _))
  refine ⟨_, ?_, congrArg Parsed.entries (collect_of_ordered defaultName (some p)
    (entriesIn p entries).length _ hadmits hordered)⟩
  rw [readFile_eq, hfetch]
  simp only [Except.bind, parse_dump_eq_collect _ hname]
  rfl

/-- All matches of a query are in the partition of the query. -/
theorem filter_matches_entriesIn {entries : List Entry} {text : String} (htext : text ≠ "")
    (hkeys : entries.Pairwise fun a b => a.key ≠ b.key) :
    (Entry.sort (entriesIn (Partition.ofQuery text) entries)).filter
        (matchesKey (Key.normalize text)) =
      (Entry.sort entries).filter (matchesKey (Key.normalize text)) := by
  rw [entriesIn, Entry.sort_filter hkeys, List.filter_filter]
  apply List.filter_congr
  intro e _
  by_cases hmatch : matchesKey (Key.normalize text) e = true
  -- What matches is in the partition of the query, so the other partitions lose nothing.
  · have hroute := Partition.ofKey_eq_ofQuery htext (matchesKey_iff.mp hmatch)
    simp [hmatch, hroute]
  · simp [hmatch]

/-! ## The search -/

/-- A first search queues a job for the partition of its query, and waits for it. -/
theorem search_empty {sectionName raw : String} {minLength : Int} {q : Prepared}
    (hq : prepare? raw (max 1 minLength) = some q) :
    ∃ x, (empty sectionName minLength).search raw = (x, 0) ∧ x.sectionName = sectionName ∧
      x.store = Store.empty ∧ x.queue = [⟨q.partition, 0⟩] ∧ x.searches = [.waiting q 0] := by
  have hlength : (empty sectionName minLength).minLength = max 1 minLength := rfl
  rw [search, hlength, hq]
  exact ⟨_, rfl, rfl, rfl, rfl, rfl⟩

/-- The job of a first search answers it. -/
theorem searchOutcome?_run [Literal.Reader] {x : Index} {q : Prepared}
    {fetch : String → Except Fault String} {parsed : Parsed} (hstore : x.store = Store.empty)
    (hqueue : x.queue = [⟨q.partition, 0⟩]) (hsearches : x.searches = [.waiting q 0])
    (hread : readFile fetch (q.partition.fileName x.sectionName) q.partition = .ok parsed) :
    (x.run none fetch).1.searchOutcome? 0 = some (.ok (q.answerIn parsed.entries)) := by
  have hjob : x.nextJob? none = some ⟨q.partition, 0⟩ := by simp [nextJob?, hqueue]
  have hnone : x.store.entries? q.partition = none := by rw [hstore]; rfl
  simp [run, hjob, runJob, run_requestFile, hread, note, Store.store_of_none hnone, complete,
    searchOutcome?, hsearches, Search.settle, Search.outcome?, Except.map, Prepared.answerOf]

theorem answerIn_sorted {q : Prepared} {entries : List Entry}
    (h : entries.Pairwise fun a b => a.key ≤ b.key) :
    q.answerIn (entries.map Entry.asRead) =
      ⟨q.text, q.normalized, some ((entries.filter (matchesKey q.normalized)).map .asRead)⟩ := by
  have hmap : (entries.map Entry.asRead).Pairwise fun a b => a.key ≤ b.key :=
    List.pairwise_map.mpr h
  rw [Prepared.answerIn, filterByKey_eq_filter q.normalized hmap, List.filter_map]
  rfl

/-- If every partition's file lists the entries of the partition, a first search queues one job,
and once the job has run the search has found exactly the matches among all entries, in key
order. -/
theorem search_partitioned [Literal.Reader] {entries : List Entry}
    (hkeys : entries.Pairwise fun a b => a.key ≠ b.key) (sectionName raw : String)
    (minLength : Int) {fetch : String → Except Fault String}
    (hfetch : ∀ p : Partition, fetch (p.fileName sectionName) =
      .ok (dump (entriesIn p entries) defaultName))
    (hlong : max 1 minLength ≤ ((trimStart raw).length : Int)) :
    ∃ x i, (empty sectionName minLength).search raw = (x, i) ∧ x.queue.length = 1 ∧
      (x.run none fetch).1.searchOutcome? i =
        some (.ok ⟨trimStart raw, Key.normalize (trimStart raw),
          some (((Entry.sort entries).filter
            (matchesKey (Key.normalize (trimStart raw)))).map Entry.asRead)⟩) := by
  obtain ⟨x, hsearch, hsection, hstore, hqueue, hsearches⟩ := search_empty (prepare?_eq_some hlong)
  obtain ⟨parsed, hread, hentries⟩ :=
    readFile_dump hkeys (hfetch (Partition.ofQuery (trimStart raw)))
  refine ⟨x, 0, hsearch, by rw [hqueue]; rfl, ?_⟩
  rw [searchOutcome?_run hstore hqueue hsearches (hsection ▸ hread), hentries,
    answerIn_sorted (Entry.sort_pairwise _),
    filter_matches_entriesIn (trimStart_ne_empty hlong) hkeys]

/-! ## Written indexes -/

/-- The files of an index: one for each partition, and no others. -/
def written (sectionName : String) (entries : List Entry) (name : String) :
    Except Fault String :=
  match Partition.all.find? fun p => p.fileName sectionName = name with
  | some p => .ok (dump (entriesIn p entries) defaultName)
  | none => .error ⟨Fault.fetchKind, "no such file"⟩

theorem written_fileName (sectionName : String) (entries : List Entry) (p : Partition) :
    written sectionName entries (p.fileName sectionName) =
      .ok (dump (entriesIn p entries) defaultName) := by
  have hfind : Partition.all.find? (fun q => q.fileName sectionName = p.fileName sectionName) =
      some p := by
    have hsome : (Partition.all.find?
        fun q => q.fileName sectionName = p.fileName sectionName).isSome := by
      rw [List.find?_isSome]
      exact ⟨p, p.mem_all, by simp⟩
    obtain ⟨q, hq⟩ := Option.isSome_iff_exists.mp hsome
    have hname := List.find?_some hq
    rw [decide_eq_true_eq] at hname
    rw [hq, Partition.fileName_injective hname]
  rw [written, hfind]

/-- An entry that the query in the case below looks for. -/
def apple : Entry where
  key := "apple"
  label := "Apple"
  hits := [⟨"fruit.html#apple", "", "fruit.h", some "", by decide⟩]
  key_ne := by decide
  hits_ne := by simp
  normalize_label := by decide

/-- An entry of another partition. -/
def pear : Entry where
  key := "pear"
  label := "pear"
  hits := [⟨"fruit.html#pear", "", "fruit.h", none, by decide⟩]
  key_ne := by decide
  hits_ne := by simp
  normalize_label := by decide

section

attribute [local instance] Literal.Reader.plain

theorem search_partitioned_apple :
    ∃ x i found, (empty "all" 2).search " AP" = (x, i) ∧ x.queue.length = 1 ∧
      (x.run none (written "all" [pear, apple])).1.searchOutcome? i =
        some (.ok ⟨"AP", "ap", some found⟩) ∧ apple.asRead ∈ found ∧ pear.asRead ∉ found := by
  have hkeys : [pear, apple].Pairwise fun a b => a.key ≠ b.key := by decide
  obtain ⟨x, i, hsearch, hqueue, hfound⟩ := search_partitioned hkeys "all" " AP" 2
    (written_fileName "all" [pear, apple]) (by decide)
  have htext : trimStart " AP" = "AP" := by decide
  have hkey : Key.normalize "AP" = "ap" := by decide
  rw [htext, hkey] at hfound
  refine ⟨x, i, _, hsearch, hqueue, hfound, ?_, ?_⟩
  · exact List.mem_map_of_mem (List.mem_filter.mpr ⟨Entry.mem_sort.mpr (by simp), by decide⟩)
  · intro hmem
    obtain ⟨e, he, heq⟩ := List.mem_map.mp hmem
    have hmatch := (List.mem_filter.mp he).2
    have hpear : e.key = "pear" := by rw [← Entry.asRead_key, heq]; rfl
    rw [matchesKey, hpear] at hmatch
    exact absurd hmatch (by decide)

end

end DocIndex.Index
