import DocIndex.Proofs.PartitionFile.Collection
import DocIndex.Proofs.Record.Faults

/-! # Malformed records

A malformed record is left out of its file and counted, and the others are read as they are
without it. A record that is not malformed but holds a value that cannot be dealt with breaks its
file, whatever the others are.
-/

namespace DocIndex.PartitionFile

/-! ## Single records -/

/-- The entry that a record describes, if it describes one. -/
def described? (record : Literal) : Option Entry := (Record.read record).toOption

theorem described?_eq_some_iff {record : Literal} {e : Entry} :
    described? record = some e ↔ Record.read record = .ok e := by
  rw [described?]
  cases Record.read record <;> simp [Except.toOption]

/-- The error that a record is for its file, unless it is read or left out. -/
def breaking? (record : Literal) : Option ReadError :=
  match Record.read record with
  | .ok _ => none
  | .error fault => ReadError.ofFault? fault

theorem breaking?_eq_none_iff {record : Literal} :
    breaking? record = none ↔
      (∃ e, Record.read record = .ok e) ∨
        ∃ flaw, Record.read record = .error (.malformed flaw) := by
  rw [breaking?]
  cases Record.read record with
  | ok e => simp
  | error fault => cases fault <;> simp [ReadError.ofFault?]

theorem breaking?_of_tame {record : Literal} (h : record.Tame) : breaking? record = none := by
  rw [breaking?]
  cases hread : Record.read record with
  | ok e => rfl
  | error fault => exact Record.spares_read h fault hread

/-- The first record that breaks the file decides; if there is none, the entries are those of the
records that describe one. -/
theorem readRecords_eq (records : List Literal) :
    readRecords records = match records.findSome? breaking? with
      | some e => .error e
      | none => .ok (records.filterMap described?) := by
  induction records with
  | nil => rfl
  | cons record rest ih =>
      rw [readRecords, ih, List.findSome?_cons, List.filterMap_cons, breaking?, described?]
      cases Record.read record with
      | ok e =>
          cases rest.findSome? breaking? with
          | none => rfl
          | some broken => rfl
      | error fault =>
          dsimp only
          cases ReadError.ofFault? fault with
          | none => rfl
          | some broken => rfl

theorem isFormat_of_breaking? {record : Literal} {e : ReadError} (h : breaking? record = some e) :
    e.isFormat = false := by
  rw [breaking?] at h
  cases hread : Record.read record with
  | ok _ =>
      rw [hread] at h
      cases h
  | error fault =>
      rw [hread] at h
      cases fault <;> cases h <;> rfl

/-! ## All records of a file -/

/-- The text binds the name to an array of the records. -/
def Binds [Literal.Reader] (text name : String) (records : List Literal) : Prop :=
  readBinding (Text.unifyLineEnds text.toList) = .ok (name, records)

/-- What is read of a file that binds the name to the records. -/
def ofRecords (name : String) (partition? : Option Partition) (records : List Literal) :
    Except ReadError Parsed :=
  (readRecords records).map (collect name partition? records.length)

variable {text name : String} {partition? : Option Partition} {records : List Literal}

theorem Binds.parse [Literal.Reader] (h : Binds text name records) :
    parse text partition? = ofRecords name partition? records := by
  rw [PartitionFile.parse, h]
  rfl

theorem ofRecords_of_unbroken (h : ∀ record ∈ records, breaking? record = none) :
    ofRecords name partition? records =
      .ok (collect name partition? records.length (records.filterMap described?)) := by
  rw [ofRecords, readRecords_eq, List.findSome?_eq_none_iff.mpr h]
  rfl

theorem ofRecords_of_broken {e : ReadError} (h : records.findSome? breaking? = some e) :
    ofRecords name partition? records = .error e := by
  rw [ofRecords, readRecords_eq, h]
  rfl

/-- One record more that gives no entry is one more left out. -/
theorem collect_succ (name : String) (partition? : Option Partition) {total : Nat}
    {entries : List Entry} (h : entries.length ≤ total) :
    (collect name partition? (total + 1) entries).entries =
        (collect name partition? total entries).entries ∧
      (collect name partition? (total + 1) entries).dropped =
        (collect name partition? total entries).dropped + 1 := by
  have hentries : (collect name partition? (total + 1) entries).entries =
      (collect name partition? total entries).entries := rfl
  refine ⟨hentries, ?_⟩
  have hmore := collect_dropped name partition? (total + 1) entries (Nat.le_succ_of_le h)
  have hless := collect_dropped name partition? total entries h
  rw [hentries] at hmore
  omega

/-- The file is read. Each record that describes no entry adds one to those left out, and without
it the same entries are read. -/
structure Isolates [Literal.Reader] (text name : String) (partition? : Option Partition)
    (records : List Literal) : Prop where
  reads : ∃ parsed, parse text partition? = .ok parsed
  drops : ∀ before record after, records = before ++ record :: after → described? record = none →
    ∃ parsed rest, parse text partition? = .ok parsed ∧
      ofRecords name partition? (before ++ after) = .ok rest ∧
      parsed.entries = rest.entries ∧ parsed.dropped = rest.dropped + 1

theorem Binds.isolates [Literal.Reader] (h : Binds text name records)
    (hunbroken : ∀ record ∈ records, breaking? record = none) :
    Isolates text name partition? records where
  reads := ⟨_, h.parse.trans (ofRecords_of_unbroken hunbroken)⟩
  drops := by
    rintro before record after rfl hnone
    have hrest : ∀ r ∈ before ++ after, breaking? r = none := by
      intro r hr
      refine hunbroken r ?_
      rcases List.mem_append.mp hr with hr | hr
      · exact List.mem_append_left _ hr
      · exact List.mem_append_right _ (List.mem_cons_of_mem _ hr)
    have hentries : (before ++ record :: after).filterMap described? =
        (before ++ after).filterMap described? := by
      rw [List.filterMap_append, List.filterMap_append, List.filterMap_cons, hnone]
    have hlength : (before ++ record :: after).length = (before ++ after).length + 1 := by
      simp [Nat.add_assoc]
    refine ⟨_, _, h.parse.trans (ofRecords_of_unbroken hunbroken),
      ofRecords_of_unbroken hrest, ?_⟩
    rw [hentries, hlength]
    exact collect_succ name partition? (List.length_filterMap_le _ _)

theorem Binds.not_isolates [Literal.Reader] (h : Binds text name records) {e : ReadError}
    (hbroken : records.findSome? breaking? = some e) :
    ¬Isolates text name partition? records := by
  rintro ⟨⟨parsed, hparse⟩, -⟩
  rw [h.parse, ofRecords_of_broken hbroken] at hparse
  cases hparse

/-- Records are isolated from each other unless one of them breaks the file, which then is not
read at all and not for a fault in its structure. None does if the values in them are tame. -/
theorem parse_isolates_iff [Literal.Reader] (partition? : Option Partition)
    (h : Binds text name records) :
    (Isolates text name partition? records ↔ ∀ record ∈ records, breaking? record = none) ∧
      (∀ e, records.findSome? breaking? = some e →
        parse text partition? = .error e ∧ e.isFormat = false) ∧
      ((∀ record ∈ records, record.Tame) → Isolates text name partition? records) := by
  refine ⟨⟨fun hisolates => ?_, h.isolates⟩, fun e hbroken => ?_, fun htame => ?_⟩
  · rw [← List.findSome?_eq_none_iff]
    cases hfind : records.findSome? breaking? with
    | none => rfl
    | some e => exact absurd hisolates (h.not_isolates hfind)
  · obtain ⟨record, -, hbreaking⟩ := List.exists_of_findSome?_eq_some hbroken
    exact ⟨h.parse.trans (ofRecords_of_broken hbroken), isFormat_of_breaking? hbreaking⟩
  · exact h.isolates fun record hrecord => breaking?_of_tame (htame record hrecord)

/-! ## Two files -/

theorem exists_binds [Literal.Reader] {α : Type} {f : List Literal → α} {a : α}
    (h : (readBinding (Text.unifyLineEnds text.toList)).toOption.map (Prod.map id f) =
      some (name, a)) : ∃ records, Binds text name records ∧ f records = a := by
  obtain ⟨⟨_, records⟩, hread, hseen⟩ := exists_ok_of_map h
  cases hseen
  exact ⟨records, hread, rfl⟩

/-- The labels of the entries that the records describe, and the error of the first record that
breaks the file. -/
def outline (records : List Literal) : List (Option String) × Option ReadError :=
  (records.map fun record => (described? record).map Entry.label, records.findSome? breaking?)

/-- A reader who knows one character by name. -/
@[reducible] def bulletReader : Literal.Reader :=
  .tireless fun name => if name = "BULLET".toList then some '•' else none

section

attribute [local instance] bulletReader

/-- A file with a number among its records and with a character by its name. -/
def strayText : String :=
  "var searchData=[42,['apple',['apple',['apple.html','\\N\x7bBULLET\x7d','']]]];"

theorem parse_isolates_iff_stray :
    ∃ records, Binds strayText "searchData" records ∧
      outline records = ([none, some "apple"], none) ∧
      Isolates strayText "searchData" none records := by
  obtain ⟨records, hbinds, houtline⟩ :
      ∃ records, Binds strayText "searchData" records ∧
        outline records = ([none, some "apple"], none) := exists_binds (by decide +kernel)
  have hunbroken : records.findSome? breaking? = none := congrArg Prod.snd houtline
  exact ⟨records, hbinds, houtline,
    (parse_isolates_iff none hbinds).1.mpr (List.findSome?_eq_none_iff.mp hunbroken)⟩

/-- A file with a record whose label is a lone surrogate. -/
def surrogateText : String :=
  "var searchData=[['apple',['apple',['apple.html','','']]]," ++
    "['apricot',['\\ud800',['apricot.html','','']]]];"

/-- The second record of the file describes no entry, and because of it the first one is lost. -/
theorem surrogate_not_isolated :
    ∃ records, Binds surrogateText "searchData" records ∧
      outline records = ([some "apple", none], some (.surrogate 0xd800)) ∧
      parse surrogateText (some (.ofKey "apple")) = .error (.surrogate 0xd800) ∧
      ¬Isolates surrogateText "searchData" (some (.ofKey "apple")) records := by
  obtain ⟨records, hbinds, houtline⟩ :
      ∃ records, Binds surrogateText "searchData" records ∧
        outline records = ([some "apple", none], some (.surrogate 0xd800)) :=
    exists_binds (by decide +kernel)
  have hbroken : records.findSome? breaking? = some (.surrogate 0xd800) :=
    congrArg Prod.snd houtline
  exact ⟨records, hbinds, houtline, hbinds.parse.trans (ofRecords_of_broken hbroken),
    hbinds.not_isolates hbroken⟩

end

end DocIndex.PartitionFile
