import DocIndex.Proofs.Numbering
import DocIndex.Proofs.PartitionFile.Isolation
import DocIndex.Proofs.Record.Parts
import Mathlib.Data.List.Induction

/-! # Which records are kept

The records of a file are taken in their order. A record gives the file an entry if it describes
one that the file may hold and no record before it gives one for the same key. What is read of the
file are the entries that are given, in key order.
-/

namespace DocIndex.PartitionFile

variable {text name : String} {partition? : Option Partition} {records : List Literal}

/-! ## Entries that are given -/

/-- After the records `before`, the record gives the file the entry: it describes the entry, the
file may hold it, and none of the records before describes one for its key that the file may
hold. -/
structure Gives (partition? : Option Partition) (before : List Literal) (record : Literal)
    (e : Entry) : Prop where
  described : Record.read record = .ok e
  admitted : admits partition? e.key = true
  first : ∀ earlier ∈ before, ∀ a, Record.read earlier = .ok a →
    admits partition? a.key = true → a.key ≠ e.key

theorem Gives.unique {record : Literal} {a b : Entry} (ha : Gives partition? records record a)
    (hb : Gives partition? records record b) : a = b :=
  Except.ok.inj (ha.described.symm.trans hb.described)

/-- The record in place `i` gives the file the entry. -/
def GivenAt (partition? : Option Partition) (records : List Literal) (i : Nat) (e : Entry) :
    Prop :=
  ∃ record, records[i]? = some record ∧ Gives partition? (records.take i) record e

/-- What a record gives depends on those before it only, so one record more leaves all that is given
as it is. -/
theorem givenAt_concat {record : Literal} {i : Nat} {e : Entry} :
    GivenAt partition? (records ++ [record]) i e ↔
      GivenAt partition? records i e ∨
        i = records.length ∧ Gives partition? records record e := by
  constructor
  · rintro ⟨r, hr, hgives⟩
    rcases getElem?_concat_eq_some.mp hr with hold | ⟨rfl, rfl⟩
    · have hi := (List.getElem?_eq_some_iff.mp hold).1
      rw [List.take_append_of_le_length (Nat.le_of_lt hi)] at hgives
      exact .inl ⟨r, hold, hgives⟩
    · rw [List.take_left] at hgives
      exact .inr ⟨rfl, hgives⟩
  · rintro (⟨r, hold, hgives⟩ | ⟨rfl, hgives⟩)
    · have hi := (List.getElem?_eq_some_iff.mp hold).1
      refine ⟨r, getElem?_concat_eq_some.mpr (.inl hold), ?_⟩
      rwa [List.take_append_of_le_length (Nat.le_of_lt hi)]
    · refine ⟨record, getElem?_concat_eq_some.mpr (.inr ⟨rfl, rfl⟩), ?_⟩
      rwa [List.take_left]

theorem GivenAt.lt_length {i : Nat} {e : Entry} (h : GivenAt partition? records i e) :
    i < records.length := by
  obtain ⟨record, hrecord, -⟩ := h
  exact (List.getElem?_eq_some_iff.mp hrecord).1

/-! ## Entries that are kept -/

/-- The entries that the records describe and the file may hold. -/
def candidates (partition? : Option Partition) (records : List Literal) : List Entry :=
  (records.filterMap described?).filter fun e => admits partition? e.key

/-- What is kept of the records, in their order. -/
def kept (partition? : Option Partition) (records : List Literal) : List Entry :=
  firstOfEachKey (candidates partition? records)

theorem mem_candidates {e : Entry} :
    e ∈ candidates partition? records ↔
      ∃ record ∈ records, Record.read record = .ok e ∧ admits partition? e.key = true := by
  simp only [candidates, List.mem_filter, List.mem_filterMap, described?_eq_some_iff]
  constructor
  · rintro ⟨⟨record, hmem, hread⟩, hadmits⟩
    exact ⟨record, hmem, hread, hadmits⟩
  · rintro ⟨record, hmem, hread, hadmits⟩
    exact ⟨⟨record, hmem, hread⟩, hadmits⟩

theorem gives_iff {record : Literal} {e : Entry} :
    Gives partition? records record e ↔
      Record.read record = .ok e ∧ admits partition? e.key = true ∧
        ∀ a ∈ candidates partition? records, a.key ≠ e.key := by
  constructor
  · rintro ⟨hread, hadmits, hfirst⟩
    refine ⟨hread, hadmits, fun a ha => ?_⟩
    obtain ⟨earlier, hmem, hearlier, hadmits'⟩ := mem_candidates.mp ha
    exact hfirst earlier hmem a hearlier hadmits'
  · rintro ⟨hread, hadmits, hnew⟩
    exact ⟨hread, hadmits, fun earlier hmem a hearlier hadmits' =>
      hnew a (mem_candidates.mpr ⟨earlier, hmem, hearlier, hadmits'⟩)⟩

theorem candidates_concat (record : Literal) :
    candidates partition? (records ++ [record]) =
      candidates partition? records ++ candidates partition? [record] := by
  rw [candidates, List.filterMap_append, List.filter_append]
  rfl

/-- A record that gives an entry adds it to what is kept. -/
theorem kept_concat_of_gives {record : Literal} {e : Entry}
    (h : Gives partition? records record e) :
    kept partition? (records ++ [record]) = kept partition? records ++ [e] := by
  obtain ⟨hread, hadmits, hnew⟩ := gives_iff.mp h
  have hlast : candidates partition? [record] = [e] := by
    simp [candidates, described?_eq_some_iff.mpr hread, hadmits]
  rw [kept, candidates_concat, hlast, firstOfEachKey_concat, if_pos hnew]
  rfl

theorem kept_concat_of_not_gives {record : Literal}
    (h : ∀ e, ¬Gives partition? records record e) :
    kept partition? (records ++ [record]) = kept partition? records := by
  rw [kept, candidates_concat]
  cases hdescribed : described? record with
  | none => simp [candidates, hdescribed, kept]
  | some e =>
      by_cases hadmits : admits partition? e.key = true
      · have hold : ¬∀ a ∈ candidates partition? records, a.key ≠ e.key := fun hnew =>
          h e (gives_iff.mpr ⟨described?_eq_some_iff.mp hdescribed, hadmits, hnew⟩)
        have hlast : candidates partition? [record] = [e] := by
          simp [candidates, hdescribed, hadmits]
        rw [hlast, firstOfEachKey_concat, if_neg hold, List.append_nil]
        rfl
      · simp [candidates, hdescribed, hadmits, kept]

theorem mem_kept {e : Entry} :
    e ∈ kept partition? records ↔ ∃ i, GivenAt partition? records i e := by
  induction records using List.reverseRecOn with
  | nil => simp [kept, candidates, firstOfEachKey, GivenAt]
  | append_singleton records record ih =>
      simp only [givenAt_concat, exists_or, ← ih, exists_eq_left]
      by_cases hgives : ∃ given, Gives partition? records record given
      · obtain ⟨given, hgiven⟩ := hgives
        rw [kept_concat_of_gives hgiven, List.mem_append, List.mem_singleton]
        have hsame : e = given ↔ Gives partition? records record e :=
          ⟨fun h => h ▸ hgiven, fun he => he.unique hgiven⟩
        rw [hsame]
      · rw [kept_concat_of_not_gives (not_exists.mp hgives),
          or_iff_left (not_exists.mp hgives e)]

theorem kept_concat_pairwise_iff (R : Entry → Entry → Prop) (record : Literal) :
    (kept partition? (records ++ [record])).Pairwise R ↔
      (kept partition? records).Pairwise R ∧
        ∀ b, Gives partition? records record b → ∀ a ∈ kept partition? records, R a b := by
  by_cases hgives : ∃ given, Gives partition? records record given
  · obtain ⟨given, hgiven⟩ := hgives
    rw [kept_concat_of_gives hgiven, List.pairwise_append]
    constructor
    · rintro ⟨hold, -, hnew⟩
      refine ⟨hold, fun b hb a ha => ?_⟩
      rw [hb.unique hgiven]
      exact hnew a ha given (List.mem_singleton_self given)
    · rintro ⟨hold, hnew⟩
      refine ⟨hold, List.pairwise_singleton R given, fun a ha b hb => ?_⟩
      cases List.mem_singleton.mp hb
      exact hnew given hgiven a ha
  · rw [kept_concat_of_not_gives (not_exists.mp hgives)]
    exact (and_iff_left fun b hb => absurd ⟨b, hb⟩ hgives).symm

/-- What is kept stands in the order in which it is given. -/
theorem kept_pairwise_iff (R : Entry → Entry → Prop) :
    (kept partition? records).Pairwise R ↔
      ∀ i j a b, i < j → GivenAt partition? records i a → GivenAt partition? records j b →
        R a b := by
  induction records using List.reverseRecOn with
  | nil => simp [kept, candidates, firstOfEachKey, GivenAt]
  | append_singleton records record ih =>
      rw [kept_concat_pairwise_iff, ih]
      constructor
      · rintro ⟨hold, hnew⟩ i j a b hij ha hb
        have hj := hb.lt_length
        rw [List.length_append, List.length_singleton] at hj
        rcases givenAt_concat.mp ha with ha | ⟨hi, -⟩
        · rcases givenAt_concat.mp hb with hb | ⟨-, hb⟩
          · exact hold i j a b hij ha hb
          · exact hnew b hb a (mem_kept.mpr ⟨i, ha⟩)
        · omega
      · intro hall
        refine ⟨fun i j a b hij ha hb => ?_, fun b hb a ha => ?_⟩
        · exact hall i j a b hij (givenAt_concat.mpr (.inl ha)) (givenAt_concat.mpr (.inl hb))
        · obtain ⟨i, ha⟩ := mem_kept.mp ha
          exact hall i records.length a b ha.lt_length (givenAt_concat.mpr (.inl ha))
            (givenAt_concat.mpr (.inr ⟨rfl, hb⟩))

theorem not_kept_sorted_iff :
    ¬(kept partition? records).Pairwise (fun a b => a.key ≤ b.key) ↔
      ∃ i j a b, i < j ∧ GivenAt partition? records i a ∧ GivenAt partition? records j b ∧
        b.key < a.key := by
  rw [kept_pairwise_iff]
  simp only [not_forall, String.not_le, exists_prop]

/-! ## What is read -/

/-- What is read of a file with these records. Its entries are those that the records give, each
spelled by a record, and no key is without one that some record could give an entry. The records
that are left out are counted, and it is remarked whether there are any and whether the records
give the entries in another order. -/
structure ReadOf (partition? : Option Partition) (records : List Literal) (parsed : Parsed) :
    Prop where
  ordered : parsed.entries.Pairwise fun a b => a.key < b.key
  given : ∀ e, e ∈ parsed.entries ↔ ∃ i, GivenAt partition? records i e
  complete : ∀ record ∈ records, ∀ e, Record.read record = .ok e →
    admits partition? e.key = true → ∃ a ∈ parsed.entries, a.key = e.key
  valid : ∀ e ∈ parsed.entries, e.key ≠ "" ∧ Key.normalize e.label = e.key ∧ e.hits ≠ [] ∧
    ∀ hit ∈ e.hits, hit.anchor ≠ ""
  spelled : ∀ i e, GivenAt partition? records i e →
    ∃ record, records[i]? = some record ∧ Record.Spells record e
  counted : parsed.entries.length + parsed.dropped = records.length
  unsorted : .unsorted ∈ parsed.warnings ↔ ∃ i j a b, i < j ∧
    GivenAt partition? records i a ∧ GivenAt partition? records j b ∧ b.key < a.key
  remarked : ∀ n, .dropped n ∈ parsed.warnings ↔ n = parsed.dropped ∧ 0 < n

theorem readOf_collect (name : String) (partition? : Option Partition) (records : List Literal) :
    ReadOf partition? records
      (collect name partition? records.length (records.filterMap described?)) where
  ordered := collect_pairwise name partition? _ _
  given e := by
    rw [collect_entries, Entry.mem_sort]
    exact mem_kept
  complete record hrecord e hread hadmits := by
    have he : e ∈ records.filterMap described? :=
      List.mem_filterMap.mpr ⟨record, hrecord, described?_eq_some_iff.mpr hread⟩
    exact exists_mem_collect name partition? _ _ he hadmits
  valid e _ := ⟨e.key_ne, e.normalize_label, e.hits_ne, fun hit _ => hit.anchor_ne⟩
  spelled := by
    rintro i e ⟨record, hrecord, hgives⟩
    exact ⟨record, hrecord, Record.spells_of_read hgives.described⟩
  counted := by
    rw [Nat.add_comm]
    exact collect_dropped name partition? _ _ (List.length_filterMap_le _ _)
  unsorted := by
    rw [unsorted_mem_collect]
    exact not_kept_sorted_iff
  remarked n := dropped_mem_collect name partition? _ _

/-- A file whose records are read or malformed is read, and what is read is what its records
give. -/
theorem parse_readOf [Literal.Reader] (h : Binds text name records)
    (hregular : ∀ record ∈ records,
      (∃ e, Record.read record = .ok e) ∨ ∃ flaw, Record.read record = .error (.malformed flaw))
    (partition? : Option Partition) :
    ∃ parsed, parse text partition? = .ok parsed ∧ parsed.name = name ∧
      ReadOf partition? records parsed := by
  have hunbroken : ∀ record ∈ records, breaking? record = none := fun record hrecord =>
    breaking?_eq_none_iff.mpr (hregular record hrecord)
  exact ⟨_, h.parse.trans (ofRecords_of_unbroken hunbroken), rfl,
    readOf_collect name partition? records⟩

/-- A file with five records. The first is malformed and does not stand in the way of the second,
which has the same key; the third belongs to another file, the fourth has a smaller key, and the
fifth has the key of the second. -/
def jumbledText : String :=
  "var s=[['pow',['pod',['m','','']]],['pow',['pow',['m#1','','']]],['z',['z',['z','','']]]," ++
    "['pad',['pad',['p','',''],['q','','']]],['pow',['Pow',['n','','']]]];"

section

attribute [local instance] Literal.Reader.plain

theorem parse_readOf_jumbled :
    ∃ records, Binds jumbledText "s" records ∧
      outline records = ([none, some "pow", some "z", some "pad", some "Pow"], none) ∧
      ∃ parsed, parse jumbledText (some (.ofKey "pow")) = .ok parsed ∧ parsed.name = "s" ∧
        ReadOf (some (.ofKey "pow")) records parsed := by
  obtain ⟨records, hbinds, houtline⟩ :
      ∃ records, Binds jumbledText "s" records ∧
        outline records = ([none, some "pow", some "z", some "pad", some "Pow"], none) :=
    exists_binds (by decide +kernel)
  have hunbroken : records.findSome? breaking? = none := congrArg Prod.snd houtline
  refine ⟨records, hbinds, houtline, parse_readOf hbinds (fun record hrecord => ?_) _⟩
  exact breaking?_eq_none_iff.mp (List.findSome?_eq_none_iff.mp hunbroken record hrecord)

end

end DocIndex.PartitionFile
