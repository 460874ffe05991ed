import DocIndex.Proofs.Outcomes
import DocIndex.Proofs.Record.Faults
import DocIndex.Proofs.Record.Reading

/-! # What is read of a record

An entry that is read has the key and the label that its record spells, and the hits in the order
in which they stand there; it is read exactly if these parts describe it. No hit is read with an
empty disambiguator, so the entry is read back as it is when it has been written.
-/

namespace DocIndex

open Text

/-! ## Hits -/

theorem Hit.asRead_eq_self {hit : Hit} (h : hit.disambiguator ≠ some "") : hit.asRead = hit := by
  cases hit with
  | mk anchor container fileLabel disambiguator anchor_ne =>
      cases disambiguator with
      | none => rfl
      | some text =>
          have htext : text ≠ "" := fun hempty => h (by rw [hempty])
          simp [asRead, Option.filter_some, htext]

namespace Record

theorem nonempty?_ne (s : List Char) : nonempty? s ≠ some [] := by
  unfold nonempty?
  split
  · simp
  · rename_i hne
    intro heq
    cases heq
    exact hne rfl

theorem disambiguator_ofText_ne (text : List Char) :
    (Scope.ofText text).disambiguator ≠ some [] := by
  unfold Scope.ofText
  split
  · exact nonempty?_ne _
  · simp

/-- What is known of the disambiguator of a scope is known of the hit. -/
theorem disambiguator_ne_of_hitAt {anchor : String} {scope : Scope} {hit : Hit}
    (hscope : scope.disambiguator ≠ some []) (h : hitAt anchor scope = .ok hit) :
    hit.disambiguator ≠ some "" := by
  unfold hitAt Hit.make at h
  split at h
  · cases h
  · cases h
    intro hsome
    obtain ⟨s, hs, hempty⟩ := Option.map_eq_some_iff.mp hsome
    have hnil : s = [] := by simpa using hempty
    exact hscope (hnil ▸ hs)

theorem disambiguator_ne_of_hitOf {anchor container fileLabel text : String} {hit : Hit}
    (h : hitOf anchor container fileLabel text = .ok hit) : hit.disambiguator ≠ some "" :=
  disambiguator_ne_of_hitAt (nonempty?_ne _) h

theorem disambiguator_ne_of_readHit {raw : Literal} {hit : Hit} (h : readHit raw = .ok hit) :
    hit.disambiguator ≠ some "" := by
  unfold readHit at h
  split at h
  · obtain ⟨anchor, -, h⟩ := bind_eq_ok_iff.mp h
    split at h
    · obtain ⟨text, -, h⟩ := bind_eq_ok_iff.mp h
      exact disambiguator_ne_of_hitAt (disambiguator_ofText_ne _) h
    · obtain ⟨container, -, h⟩ := bind_eq_ok_iff.mp h
      obtain ⟨fileLabel, -, h⟩ := bind_eq_ok_iff.mp h
      exact disambiguator_ne_of_hitOf h
  · obtain ⟨anchor, -, h⟩ := bind_eq_ok_iff.mp h
    split at h
    · cases h
    · obtain ⟨container, -, h⟩ := bind_eq_ok_iff.mp h
      obtain ⟨fileLabel, -, h⟩ := bind_eq_ok_iff.mp h
      obtain ⟨disambiguator, -, h⟩ := bind_eq_ok_iff.mp h
      exact disambiguator_ne_of_hitOf h
  · cases h

/-! ## Parts -/

section Parts

variable {key label : Literal} {hits : List Literal} {e : Entry}

/-- What a key, a label and raw hits are read as. -/
def readParts (key label : Literal) (hits : List Literal) : Except Fault Entry :=
  match key with
  | .text key => do
    let label ← readText .label label
    let hits ← hits.mapM readHit
    assemble (String.ofList key.lossy) label hits
  | _ => .error (flawed key .keyNotText)

/-- A record is read by its key, its label and its raw hits. -/
theorem read_eq_readParts {record body : Literal} {rest : List Literal}
    (hrecord : record.items? = some [key, body]) (hbody : body.items? = some (label :: rest)) :
    read record = readParts key label (rawHits rest) := by
  rw [read, hrecord]
  cases key with
  | text s =>
      dsimp only
      rw [hbody]
      rfl
  | _ => rfl

theorem readText_eq_ok_iff {role : Role} {v : Literal} {s : CodePoints} :
    readText role v = .ok s ↔ v = .text s ∧ Markup.overlong? s.lossy = none := by
  constructor
  · intro h
    cases eq_text_of_readText h
    refine ⟨rfl, ?_⟩
    cases hlong : Markup.overlong? s.lossy with
    | none => rfl
    | some digits => simp [readText, hlong] at h
  · rintro ⟨rfl, hshort⟩
    simp [readText, hshort]

/-- An entry is put together of its own key, label and hits only, and of no label with a lone
surrogate. -/
theorem assemble_eq_ok_iff {key : String} {label : CodePoints} {hits : List Hit} :
    assemble key label hits = .ok e ↔ label.firstSurrogate? = none ∧
      e.key = key ∧ e.label = resolve label ∧ e.hits = hits := by
  have hmake : (Entry.make key (resolve label) hits).mapError (.malformed ∘ .entry) =
      (.ok e : Except Fault Entry) ↔ e.key = key ∧ e.label = resolve label ∧ e.hits = hits := by
    rw [mapError_eq_ok_iff, Entry.make_eq_ok_iff]
  unfold assemble
  cases hsurrogate : label.firstSurrogate? with
  | none => simpa using hmake
  | some n =>
      -- Without a key or without hits there is no entry either, so the label is not reached.
      simp only [reduceCtorEq, false_and, iff_false]
      split
      · simp
      · rename_i hempty
        rw [hmake]
        rintro ⟨rfl, -, rfl⟩
        exact hempty ⟨e.key_ne, e.hits_ne⟩

/-- The entry has the key and the label that are written, and the written hits in their order. -/
structure Describes (key label : Literal) (hits : List Literal) (e : Entry) : Prop where
  key : ∃ s, key = .text s ∧ e.key = String.ofList s.lossy
  label : ∃ s, label = .text s ∧ s.firstSurrogate? = none ∧ Markup.overlong? s.lossy = none ∧
    e.label = resolve s
  hits : hits.map readHit = e.hits.map .ok

theorem readParts_eq_ok_iff : readParts key label hits = .ok e ↔ Describes key label hits e := by
  constructor
  · intro hread
    cases key with
    | text s =>
        obtain ⟨text, htext, hrest⟩ := bind_eq_ok_iff.mp hread
        obtain ⟨found, hfound, hentry⟩ := bind_eq_ok_iff.mp hrest
        obtain ⟨hlabel, hshort⟩ := readText_eq_ok_iff.mp htext
        obtain ⟨hsurrogate, hkey, htold, rfl⟩ := assemble_eq_ok_iff.mp hentry
        exact ⟨⟨s, rfl, hkey⟩, ⟨text, hlabel, hsurrogate, hshort, htold⟩,
          mapM_eq_ok_iff.mp hfound⟩
    | _ => cases hread
  · rintro ⟨⟨s, rfl, hkey⟩, ⟨text, rfl, hsurrogate, hshort, hlabel⟩, hhits⟩
    refine bind_eq_ok_iff.mpr ⟨text, readText_eq_ok_iff.mpr ⟨rfl, hshort⟩, ?_⟩
    refine bind_eq_ok_iff.mpr ⟨e.hits, mapM_eq_ok_iff.mpr hhits, ?_⟩
    exact assemble_eq_ok_iff.mpr ⟨hsurrogate, hkey, hlabel, rfl⟩

end Parts

/-! ## Entries -/

/-- The record spells the entry: its key, its label, and its hits in the order in which they
stand. -/
def Spells (record : Literal) (e : Entry) : Prop :=
  ∃ key body label rest, record.items? = some [.text key, body] ∧
    body.items? = some (.text label :: rest) ∧
    e.key = String.ofList key.lossy ∧ e.label = resolve label ∧
    (rawHits rest).map readHit = e.hits.map .ok

theorem spells_of_read {record : Literal} {e : Entry} (h : read record = .ok e) :
    Spells record e := by
  unfold read at h
  split at h
  · rename_i key body hitems
    split at h
    · rename_i label rest hparts
      have hread : readParts (.text key) label (rawHits rest) = .ok e := h
      obtain ⟨⟨s, hs, hkey⟩, ⟨text, rfl, -, -, hlabel⟩, hhits⟩ := readParts_eq_ok_iff.mp hread
      cases hs
      exact ⟨key, body, text, rest, hitems, hparts, hkey, hlabel, hhits⟩
    · cases h
  · cases h
  · cases h

/-- An entry that is read is read back as it is when it has been written. -/
theorem asRead_of_read {record : Literal} {e : Entry} (h : read record = .ok e) : e.asRead = e := by
  obtain ⟨key, body, label, rest, -, -, -, -, hhits⟩ := spells_of_read h
  have hsame : e.hits.map Hit.asRead = e.hits.map id := by
    refine List.map_congr_left fun hit hhit => ?_
    have hread : .ok hit ∈ (rawHits rest).map readHit := hhits ▸ List.mem_map_of_mem hhit
    obtain ⟨raw, -, hraw⟩ := List.mem_map.mp hread
    exact Hit.asRead_eq_self (disambiguator_ne_of_readHit hraw)
  rw [List.map_id] at hsame
  cases e
  simp only [Entry.asRead] at hsame ⊢
  simp only [hsame]

end Record

end DocIndex
