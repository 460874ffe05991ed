import DocIndex.Proofs.PartitionFile.Isolation
import DocIndex.Proofs.PartitionFile.RoundTrip
import DocIndex.Proofs.Record.Parts

/-! # Files that are read and written again

What is read of a file, in whichever layout its records are, is settled: when it is written in the
newer layout and read again, nothing about it is different, and no record is left out.
-/

namespace DocIndex.PartitionFile

open Text

variable {text name : String} {partition? : Option Partition} {parsed : Parsed}

/-! ## Names that are read -/

theorem isBindingName_of_takeName? {s taken rest : List Char}
    (h : takeName? s = some (taken, rest)) : IsBindingName (String.ofList taken) := by
  unfold takeName? at h
  split at h
  · rename_i c others
    split at h
    · rename_i hc
      cases h
      exact ⟨c, _, String.toList_ofList, hc, List.all_takeWhile⟩
    · cases h
  · cases h

theorem isBindingName_of_splitBinding? {s taken body : List Char}
    (h : splitBinding? s = some (taken, body)) : IsBindingName (String.ofList taken) := by
  obtain ⟨value, -, h⟩ := Option.bind_eq_some_iff.mp h
  obtain ⟨⟨taken', rest⟩, htake, h⟩ := Option.bind_eq_some_iff.mp h
  dsimp only at h
  split at h
  · cases h
    exact isBindingName_of_takeName? htake
  · cases h

theorem isBindingName_of_readBinding [Literal.Reader] {s : List Char} {records : List Literal}
    (h : readBinding s = .ok (name, records)) : IsBindingName name := by
  unfold readBinding at h
  split at h
  · cases h
  · rename_i taken body hsplit
    split at h <;> cases h
    exact isBindingName_of_splitBinding? hsplit

/-! ## Entries that are read -/

theorem asRead_of_readRecords {records : List Literal} {entries : List Entry}
    (h : readRecords records = .ok entries) : ∀ e ∈ entries, e.asRead = e := by
  rw [readRecords_eq] at h
  split at h
  · cases h
  · cases h
    intro e he
    obtain ⟨record, -, hdescribed⟩ := List.mem_filterMap.mp he
    exact Record.asRead_of_read (described?_eq_some_iff.mp hdescribed)

/-! ## Settled files -/

/-- Nothing about the file is different when it has been written and read again: its name may be
bound, its entries stand in key order and belong to the partition, and each is read back as it
is. -/
structure Settled (partition? : Option Partition) (parsed : Parsed) : Prop where
  named : IsBindingName parsed.name
  ordered : parsed.entries.Pairwise fun a b => a.key < b.key
  admitted : ∀ e ∈ parsed.entries, admits partition? e.key = true
  stable : ∀ e ∈ parsed.entries, e.asRead = e

theorem parse_settled [Literal.Reader] (h : parse text partition? = .ok parsed) :
    Settled partition? parsed := by
  obtain ⟨name, records, entries, hbinding, hrecords, rfl⟩ := parse_eq_ok_iff.mp h
  refine ⟨isBindingName_of_readBinding hbinding, ?_, fun e he => ?_, fun e he => ?_⟩
  · exact collect_pairwise name partition? records.length entries
  · exact ((mem_collect_entries name partition? records.length entries).mp he).1
  · have hfirst := ((mem_collect_entries name partition? records.length entries).mp he).2
    exact asRead_of_readRecords hrecords e (List.mem_of_find?_eq_some hfirst)

/-- A file that is read loses nothing when it is written and read again: the name and the entries
are the same, each with its label and its hits, and there is nothing to remark on. -/
theorem parse_dump_parsed [Literal.Reader] (h : parse text partition? = .ok parsed) :
    parse (dump parsed.entries parsed.name) partition? =
      .ok { parsed with dropped := 0, warnings := [] } := by
  obtain ⟨hnamed, hordered, hadmitted, hstable⟩ := parse_settled h
  have hsorted : Entry.sort parsed.entries = parsed.entries :=
    Entry.sort_eq_self (hordered.imp Std.le_of_lt)
  have hwritten : (Entry.sort parsed.entries).map Entry.asRead = parsed.entries := by
    rw [hsorted, List.map_congr_left hstable, List.map_id']
  rw [parse_dump_eq_collect parsed.entries hnamed partition?, hwritten,
    collect_of_ordered _ _ _ _ hadmitted hordered, Nat.sub_self]
  rfl

/-- A file with tuples, hits of the older layout, hits in a list of their own and character
references. The last four records are left out: one belongs to another file, one has the key of the
first, one has no hits, and one is no record. -/
def mixedText : String :=
  "let find$ = [('pow',('pow',('m#1',1,'math::pow(x):&#160;m.h')))," ++
    "['pad',['pad',[['p#1','','',''],['p#2',0,'p&amp;']]]]," ++
    "['p_3c',['p&lt;',['m#2','','']]]," ++
    "['z',['z',['z','','']]],['pow',['pow',['m','','']]],['p',['p']],7];"

section

attribute [local instance] Literal.Reader.plain

theorem parse_dump_parsed_mixed :
    ∃ parsed, parse mixedText (some (.ofKey "pow")) = .ok parsed ∧
      (parsed.name, parsed.warnings) = ("find$", [.unsorted, .dropped 4]) ∧
      parse (dump parsed.entries parsed.name) (some (.ofKey "pow")) =
        .ok { parsed with dropped := 0, warnings := [] } := by
  obtain ⟨parsed, hparse, hseen⟩ :
      ∃ parsed, parse mixedText (some (.ofKey "pow")) = .ok parsed ∧
        (parsed.name, parsed.warnings) = ("find$", [.unsorted, .dropped 4]) :=
    exists_ok_of_map (by decide +kernel)
  exact ⟨parsed, hparse, hseen, parse_dump_parsed hparse⟩

end

end DocIndex.PartitionFile
