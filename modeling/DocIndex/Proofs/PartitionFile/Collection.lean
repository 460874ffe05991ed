import DocIndex.PartitionFile
import DocIndex.Proofs.Entry.Sorting
import DocIndex.Proofs.Outcomes

/-! # What is kept of a file

Of the entries that a file describes, the first for each key is kept, and the kept entries stand
in key order.
-/

namespace DocIndex.PartitionFile

/-! ## The first of each key -/

theorem firstOfEachKey_sublist (entries : List Entry) :
    (firstOfEachKey entries).Sublist entries := by
  induction entries with
  | nil => exact .slnil
  | cons e rest ih => exact (List.filter_sublist.trans ih).cons_cons e

theorem firstOfEachKey_pairwise (entries : List Entry) :
    (firstOfEachKey entries).Pairwise fun a b => a.key ≠ b.key := by
  induction entries with
  | nil => exact .nil
  | cons e rest ih =>
      refine .cons (fun a ha => ?_) (ih.filter _)
      have hne := (List.mem_filter.mp ha).2
      rw [decide_eq_true_eq] at hne
      exact Ne.symm hne

theorem mem_firstOfEachKey {entries : List Entry} {e : Entry} :
    e ∈ firstOfEachKey entries ↔ entries.find? (·.key = e.key) = some e := by
  induction entries with
  | nil => simp [firstOfEachKey]
  | cons a rest ih =>
      rw [firstOfEachKey, List.mem_cons, List.mem_filter, ih, List.find?_cons]
      by_cases hkey : a.key = e.key
      · simp [hkey, eq_comm]
      · have hne : e ≠ a := by
          rintro rfl
          exact hkey rfl
        simp [hkey, hne, Ne.symm hkey]

theorem firstOfEachKey_eq_self {entries : List Entry}
    (h : entries.Pairwise fun a b => a.key ≠ b.key) : firstOfEachKey entries = entries := by
  induction entries with
  | nil => rfl
  | cons e rest ih =>
      rw [firstOfEachKey, ih h.tail]
      congr 1
      rw [List.filter_eq_self]
      intro a ha
      rw [decide_eq_true_eq]
      exact Ne.symm (List.rel_of_pairwise_cons h ha)

/-- An entry that comes last is kept if it is the first of its key. -/
theorem firstOfEachKey_concat (entries : List Entry) (e : Entry) :
    firstOfEachKey (entries ++ [e]) =
      firstOfEachKey entries ++ if ∀ a ∈ entries, a.key ≠ e.key then [e] else [] := by
  induction entries with
  | nil => rfl
  | cons x rest ih =>
      rw [List.cons_append, firstOfEachKey, ih, List.filter_append, firstOfEachKey]
      by_cases hkey : x.key = e.key
      · simp [hkey]
      · simp [hkey, Ne.symm hkey]

/-! ## Order -/

theorem isSorted_iff (entries : List Entry) :
    isSorted entries = true ↔ entries.Pairwise fun a b => a.key ≤ b.key := by
  induction entries with
  | nil => simp [isSorted]
  | cons a rest ih =>
      cases rest with
      | nil => simp [isSorted]
      | cons b rest =>
          rw [isSorted, Bool.and_eq_true, decide_eq_true_eq, ih]
          constructor
          · rintro ⟨hab, hrest⟩
            refine .cons (fun c hc => ?_) hrest
            rcases List.mem_cons.mp hc with rfl | hc
            · exact hab
            · exact String.le_trans hab (List.rel_of_pairwise_cons hrest hc)
          · intro hall
            exact ⟨List.rel_of_pairwise_cons hall (by simp), hall.tail⟩

/-! ## Collected entries -/

section Collect

variable (name : String) (partition? : Option Partition) (total : Nat) (entries : List Entry)

theorem collect_entries :
    (collect name partition? total entries).entries =
      Entry.sort (firstOfEachKey (entries.filter fun e => admits partition? e.key)) := by
  rw [collect]
  dsimp only
  split
  · rename_i hsorted
    exact (Entry.sort_eq_self ((isSorted_iff _).mp hsorted)).symm
  · rfl

theorem collect_pairwise :
    (collect name partition? total entries).entries.Pairwise fun a b => a.key < b.key := by
  rw [collect_entries]
  exact Entry.sort_pairwise_lt (firstOfEachKey_pairwise _)

/-- What is kept for a key is the first entry of that key, if the file may hold it. -/
theorem mem_collect_entries {e : Entry} :
    e ∈ (collect name partition? total entries).entries ↔
      admits partition? e.key = true ∧ entries.find? (·.key = e.key) = some e := by
  rw [collect_entries, Entry.mem_sort, mem_firstOfEachKey, List.find?_filter]
  by_cases hadmits : admits partition? e.key = true
  · have hsame : (fun a : Entry => admits partition? a.key && decide (a.key = e.key)) =
        fun a => decide (a.key = e.key) := by
      funext a
      by_cases hkey : a.key = e.key
      · simp [hkey, hadmits]
      · simp [hkey]
    simp [hsame, hadmits]
  · have hnone : entries.find?
        (fun a => admits partition? a.key && decide (a.key = e.key)) = none := by
      rw [List.find?_eq_none]
      intro a _ hfound
      rw [Bool.and_eq_true, decide_eq_true_eq] at hfound
      exact hadmits (hfound.2 ▸ hfound.1)
    simp [hnone, hadmits]

/-- No key is lost: an entry that is not kept itself gives way to one of its key. -/
theorem exists_mem_collect {e : Entry} (he : e ∈ entries)
    (hadmits : admits partition? e.key = true) :
    ∃ a ∈ (collect name partition? total entries).entries, a.key = e.key := by
  have hsome : (entries.find? (·.key = e.key)).isSome = true :=
    List.find?_isSome.mpr ⟨e, he, decide_eq_true rfl⟩
  obtain ⟨a, ha⟩ := Option.isSome_iff_exists.mp hsome
  have hkey : a.key = e.key := by simpa using List.find?_some ha
  refine ⟨a, (mem_collect_entries name partition? total entries).mpr ?_, hkey⟩
  rw [hkey]
  exact ⟨hadmits, ha⟩

/-- Entries that are in order and may all be kept are kept as they are. -/
theorem collect_of_ordered (hadmits : ∀ e ∈ entries, admits partition? e.key = true)
    (h : entries.Pairwise fun a b => a.key < b.key) :
    collect name partition? total entries =
      { name
        entries
        dropped := total - entries.length
        warnings :=
          if total - entries.length = 0 then [] else [.dropped (total - entries.length)] } := by
  have hkept : firstOfEachKey (entries.filter fun e => admits partition? e.key) = entries := by
    rw [List.filter_eq_self.mpr hadmits, firstOfEachKey_eq_self (h.imp String.ne_of_lt)]
  have hsorted : isSorted entries = true :=
    (isSorted_iff entries).mpr (h.imp Std.le_of_lt)
  simp [collect, hkept, hsorted]

/-- The entries kept and the records left out are all there were. -/
theorem collect_dropped (h : entries.length ≤ total) :
    (collect name partition? total entries).dropped +
      (collect name partition? total entries).entries.length = total := by
  rw [collect_entries, Entry.length_sort]
  have hkept := (firstOfEachKey_sublist
    (entries.filter fun e => admits partition? e.key)).length_le
  have hfiltered := entries.length_filter_le fun e => admits partition? e.key
  rw [collect]
  dsimp only
  omega

theorem unsorted_mem_collect :
    .unsorted ∈ (collect name partition? total entries).warnings ↔
      ¬(firstOfEachKey (entries.filter fun e => admits partition? e.key)).Pairwise
        fun a b => a.key ≤ b.key := by
  rw [← isSorted_iff, collect]
  dsimp only
  rw [List.mem_append]
  constructor
  · rintro (h | h) hsorted
    · simp [hsorted] at h
    · split at h <;> simp at h
  · intro hsorted
    exact .inl (by simp [hsorted])

theorem dropped_mem_collect {n : Nat} :
    .dropped n ∈ (collect name partition? total entries).warnings ↔
      n = (collect name partition? total entries).dropped ∧ 0 < n := by
  have horder : ∀ sorted : Bool,
      .dropped n ∉ (if sorted then [] else [.unsorted] : List Warning) := by simp
  rw [collect]
  dsimp only
  rw [List.mem_append, or_iff_right (horder _)]
  split
  · rename_i hnone
    simp only [List.not_mem_nil, false_iff]
    omega
  · rename_i hsome
    rw [List.mem_singleton, Warning.dropped.injEq]
    constructor
    · rintro rfl
      exact ⟨rfl, Nat.pos_of_ne_zero hsome⟩
    · exact And.left

/-- Nothing is said of the order of a file in key order. -/
theorem unsorted_not_mem_collect (h : entries.Pairwise fun a b => a.key ≤ b.key) :
    .unsorted ∉ (collect name partition? total entries).warnings := fun hmem =>
  (unsorted_mem_collect name partition? total entries).mp hmem
    ((h.filter fun e => admits partition? e.key).sublist (firstOfEachKey_sublist _))

end Collect

/-! ## The entries of a file -/

/-- A file that is read binds a name to records, none of which breaks it. -/
theorem parse_eq_ok_iff [Literal.Reader] {text : String} {partition? : Option Partition}
    {parsed : Parsed} :
    parse text partition? = .ok parsed ↔ ∃ name records entries,
      readBinding (Text.unifyLineEnds text.toList) = .ok (name, records) ∧
        readRecords records = .ok entries ∧
        collect name partition? records.length entries = parsed := by
  unfold parse
  rw [bind_eq_ok_iff]
  constructor
  · rintro ⟨⟨name, records⟩, hbinding, h⟩
    obtain ⟨entries, hrecords, hparsed⟩ := bind_eq_ok_iff.mp h
    exact ⟨name, records, entries, hbinding, hrecords, Except.ok.inj hparsed⟩
  · rintro ⟨name, records, entries, hbinding, hrecords, hparsed⟩
    exact ⟨(name, records), hbinding,
      bind_eq_ok_iff.mpr ⟨entries, hrecords, congrArg Except.ok hparsed⟩⟩

theorem parse_pairwise [Literal.Reader] {text : String} {partition? : Option Partition}
    {parsed : Parsed} (h : parse text partition? = .ok parsed) :
    parsed.entries.Pairwise fun a b => a.key < b.key := by
  obtain ⟨name, records, entries, -, -, rfl⟩ := parse_eq_ok_iff.mp h
  exact collect_pairwise name partition? records.length entries

end DocIndex.PartitionFile
