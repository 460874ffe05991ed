import DocIndex.Proofs.PartitionFile.Binding
import DocIndex.Proofs.PartitionFile.Collection

/-! # Writing a file and reading it

What is read of a written file is what was written, but for the entries whose key an earlier
entry has and those that the partition cannot hold.
-/

namespace DocIndex.PartitionFile

/-! ## Records -/

theorem readRecords_nested (entries : List Entry) :
    readRecords (entries.map fun e => e.nested.literal) = .ok (entries.map Entry.asRead) := by
  induction entries with
  | nil => rfl
  | cons e rest ih =>
      rw [List.map_cons, readRecords, Record.read_nested]
      dsimp only
      rw [ih]
      rfl

theorem find?_key_written (entries : List Entry) (key : String) :
    ((Entry.sort entries).map Entry.asRead).find? (·.key = key) =
      (entries.find? (·.key = key)).map Entry.asRead := by
  rw [List.find?_map, ← Entry.find?_key_sort]
  rfl

theorem written_pairwise (entries : List Entry) :
    ((Entry.sort entries).map Entry.asRead).Pairwise fun a b => a.key ≤ b.key :=
  List.pairwise_map.mpr (Entry.sort_pairwise entries)

/-! ## The file -/

theorem parse_dump_eq_collect [Literal.Reader] (entries : List Entry) {name : String}
    (h : IsBindingName name) (partition? : Option Partition) :
    parse (dump entries name) partition? =
      .ok (collect name partition? entries.length ((Entry.sort entries).map Entry.asRead)) := by
  rw [parse, readBinding_dump entries h]
  simp only [bind, Except.bind, readRecords_nested, List.length_map, Entry.length_sort]
  rfl

/-- Reading undoes writing. The entries read are, in strict key order, the first one for each key
that the partition can hold, each as it is read back; the others are counted as left out, and the
order of the file is not remarked on. -/
theorem parse_dump [Literal.Reader] (entries : List Entry) {name : String} (h : IsBindingName name)
    (partition? : Option Partition) :
    ∃ parsed, parse (dump entries name) partition? = .ok parsed ∧
      parsed.name = name ∧
      parsed.entries.Pairwise (fun a b => a.key < b.key) ∧
      (∀ e, e ∈ parsed.entries ↔ admits partition? e.key = true ∧
        (entries.find? (·.key = e.key)).map Entry.asRead = some e) ∧
      parsed.dropped + parsed.entries.length = entries.length ∧
      .unsorted ∉ parsed.warnings := by
  refine ⟨_, parse_dump_eq_collect entries h partition?, rfl, ?_, ?_, ?_, ?_⟩
  · exact collect_pairwise name partition? _ _
  · intro e
    rw [mem_collect_entries, find?_key_written]
  · apply collect_dropped
    exact Nat.le_of_eq (by rw [List.length_map, Entry.length_sort])
  · exact unsorted_not_mem_collect name partition? _ _ (written_pairwise entries)

/-- An entry whose texts need both kinds of escapes. -/
def escapedEntry : Entry where
  key := Key.normalize "it's \"<\\&lt;\n"
  label := "it's \"<\\&lt;\n"
  hits := [⟨"a.html#\x00", "", "'", some "", by decide⟩]
  key_ne h := Key.toList_normalize_ne_nil (by decide) (String.toList_eq_nil_iff.mpr h)
  hits_ne := by simp
  normalize_label := rfl

section

attribute [local instance] Literal.Reader.plain

theorem parse_dump_escapedEntry :
    IsBindingName "search$" ∧
      ∃ parsed, parse (dump [escapedEntry, escapedEntry] "search$") none = .ok parsed ∧
        escapedEntry.asRead ∈ parsed.entries ∧ parsed.dropped + parsed.entries.length = 2 := by
  have hname : IsBindingName "search$" := by decide
  obtain ⟨parsed, hparse, -, -, hmem, hcount, -⟩ :=
    parse_dump [escapedEntry, escapedEntry] hname none
  refine ⟨hname, parsed, hparse, (hmem _).mpr ⟨rfl, ?_⟩, hcount⟩
  simp

end

end DocIndex.PartitionFile
