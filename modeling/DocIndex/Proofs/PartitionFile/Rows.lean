import DocIndex.Proofs.PartitionFile.Tokens
import DocIndex.Proofs.Record.Reading

/-! # The rows of a written file

Each row of a file is cut into the tokens of an entry's record, so the array of a file is read as
the list of the records.
-/

namespace DocIndex

open Text Expression

namespace PartitionFile

/-! ## Hits and entries -/

section

variable [CharacterNames]

theorem cuts_ofString (s : String) : Cuts (writeText s) (Nested.ofString s).tokens :=
  cuts_writeText s

theorem cuts_writeHit (hit : Hit) : Cuts (writeHit hit) hit.nested.tokens := by
  have hcut := cuts_list (hit.texts.map fun s => (writeText s, Nested.ofString s)) (by
    intro p hp
    obtain ⟨s, -, rfl⟩ := List.mem_map.mp hp
    exact cuts_ofString s)
  simpa [Function.comp_def, writeHit, Hit.nested, Hit.texts] using hcut

/-- The body of a record: the label and the hits. -/
theorem cuts_body (e : Entry) :
    Cuts ('[' :: commaSeparated (writeText e.label :: e.hits.map writeHit) ++ [']'])
      (Nested.list (.ofString e.label :: e.hits.map Hit.nested)).tokens := by
  have hcut := cuts_list ((writeText e.label, .ofString e.label) ::
      e.hits.map fun hit => (writeHit hit, hit.nested)) (by
    intro p hp
    rcases List.mem_cons.mp hp with rfl | hp
    · exact cuts_ofString e.label
    · obtain ⟨hit, -, rfl⟩ := List.mem_map.mp hp
      exact cuts_writeHit hit)
  simpa [Function.comp_def] using hcut

theorem cuts_writeEntry (e : Entry) : Cuts (writeEntry e) e.nested.tokens := by
  have hcut := cuts_list [(writeText e.key, .ofString e.key),
      ('[' :: commaSeparated (writeText e.label :: e.hits.map writeHit) ++ [']'],
        .list (.ofString e.label :: e.hits.map Hit.nested))] (by
    intro p hp
    simp only [List.mem_cons, List.not_mem_nil, or_false] at hp
    rcases hp with rfl | rfl
    · exact cuts_ofString e.key
    · exact cuts_body e)
  exact (separates_space.append separates_space).append_cuts hcut

end

/-! ## The array -/

/-- The array of a file that lists the entries. -/
def writeArray (entries : List Entry) : List Char :=
  '[' :: '\n' :: ([',', '\n'].intercalate (entries.map writeEntry) ++ ['\n', ']'])

theorem tokens?_writeArray [CharacterNames] (entries : List Entry) :
    tokens? (writeArray entries) =
      some (.opening .square :: Nested.lines (entries.map Entry.nested)) := by
  have hcut := cuts_lines (entries.map fun e => (writeEntry e, e.nested)) (by
    intro p hp
    obtain ⟨e, -, rfl⟩ := List.mem_map.mp hp
    exact cuts_writeEntry e)
  simpa [Function.comp_def, writeArray] using hcut.tokens?

theorem depth_list_le {items : List Nested} {n : Nat} (h : ∀ x ∈ items, x.depth ≤ n) :
    (Nested.list items).depth ≤ n + 1 := by
  rw [Nested.depth]
  exact Nat.succ_le_succ ((Nested.depthWithin_le_iff items n).mpr h)

theorem depth_ofString (s : String) : (Nested.ofString s).depth = 0 := rfl

theorem depth_hit (hit : Hit) : hit.nested.depth ≤ 1 := by
  apply depth_list_le
  intro x hx
  obtain ⟨s, -, rfl⟩ := List.mem_map.mp hx
  simp [depth_ofString]

theorem depth_entry (e : Entry) : e.nested.depth ≤ 3 := by
  apply depth_list_le
  intro x hx
  simp only [List.mem_cons, List.not_mem_nil, or_false] at hx
  rcases hx with rfl | rfl
  · simp [depth_ofString]
  · apply depth_list_le
    intro y hy
    rcases List.mem_cons.mp hy with rfl | hy
    · simp [depth_ofString]
    · obtain ⟨hit, -, rfl⟩ := List.mem_map.mp hy
      exact depth_hit hit

theorem depth_entries (entries : List Entry) :
    (Nested.list (entries.map Entry.nested)).depth ≤ 4 := by
  apply depth_list_le
  intro x hx
  obtain ⟨e, -, rfl⟩ := List.mem_map.mp hx
  exact depth_entry e

theorem joinLines_writeArray [CharacterNames] (entries : List Entry) :
    (tokens? (writeArray entries)).bind (joinLines 0) =
      some (Nested.list (entries.map Entry.nested)).tokens := by
  rw [tokens?_writeArray, Option.bind_some]
  exact joinLines_lines _ (Nat.le_trans (depth_entries entries) (by decide))

/-! ## Characters -/

theorem le_of_mem_quoteChar {c d : Char} (h : d ∈ quoteChar c) : 0x20 ≤ d.toNat := by
  rcases quoteChar_cases c with ⟨hmark, hc⟩ | ⟨hlow, hc⟩ | ⟨-, -, hle, hc⟩
  · rw [hc] at h
    rcases hmark with rfl | rfl <;> simp at h <;> rcases h with rfl | rfl <;> decide
  · rw [hc] at h
    simp only [List.mem_cons, List.not_mem_nil, or_false] at h
    rcases h with rfl | rfl | rfl | rfl
    · decide
    · decide
    · exact le_hexDigit _ (by omega)
    · exact le_hexDigit _ (by omega)
  · rw [hc, List.mem_singleton] at h
    exact h ▸ hle

theorem le_of_mem_writeText {s : String} {c : Char} (h : c ∈ writeText s) : 0x20 ≤ c.toNat := by
  simp only [writeText, List.mem_append, List.mem_cons, List.mem_flatMap, List.not_mem_nil,
    or_false] at h
  rcases h with (rfl | ⟨d, -, hd⟩) | rfl
  · decide
  · exact le_of_mem_quoteChar hd
  · decide

theorem mem_intercalate {sep : List Char} {parts : List (List Char)} {c : Char}
    (h : c ∈ sep.intercalate parts) : c ∈ sep ∨ ∃ p ∈ parts, c ∈ p := by
  cases parts with
  | nil => simp [List.intercalate] at h
  | cons p parts =>
      rw [intercalate_cons, List.mem_append, List.mem_flatMap] at h
      rcases h with h | ⟨q, hq, h⟩
      · exact .inr ⟨p, by simp, h⟩
      · rcases List.mem_append.mp h with h | h
        · exact .inl h
        · exact .inr ⟨q, by simp [hq], h⟩

theorem le_of_mem_commaSeparated {parts : List (List Char)}
    (hparts : ∀ p ∈ parts, ∀ d ∈ p, 0x20 ≤ d.toNat) {c : Char} (h : c ∈ commaSeparated parts) :
    0x20 ≤ c.toNat := by
  rcases mem_intercalate h with h | ⟨p, hp, h⟩
  · rw [List.mem_singleton] at h
    subst h
    decide
  · exact hparts p hp c h

/-- A bracketed list of parts without control characters has none either. -/
theorem le_of_mem_brackets {parts : List (List Char)}
    (hparts : ∀ p ∈ parts, ∀ d ∈ p, 0x20 ≤ d.toNat) {c : Char}
    (h : c ∈ '[' :: commaSeparated parts ++ [']']) : 0x20 ≤ c.toNat := by
  simp only [List.cons_append, List.mem_cons, List.mem_append, List.not_mem_nil, or_false] at h
  rcases h with rfl | h | rfl
  · decide
  · exact le_of_mem_commaSeparated hparts h
  · decide

theorem le_of_mem_writeHit {hit : Hit} {c : Char} (h : c ∈ writeHit hit) : 0x20 ≤ c.toNat := by
  apply le_of_mem_brackets _ h
  intro p hp d hd
  obtain ⟨s, -, rfl⟩ := List.mem_map.mp hp
  exact le_of_mem_writeText hd

theorem le_of_mem_writeEntry {e : Entry} {c : Char} (h : c ∈ writeEntry e) : 0x20 ≤ c.toNat := by
  simp only [writeEntry, List.cons_append, List.mem_cons] at h
  rcases h with rfl | rfl | h
  · decide
  · decide
  · apply le_of_mem_brackets _ (List.mem_cons.mpr h)
    intro p hp d hd
    simp only [List.mem_cons, List.not_mem_nil, or_false] at hp
    rcases hp with rfl | rfl
    · exact le_of_mem_writeText hd
    · apply le_of_mem_brackets _ hd
      intro q hq x hx
      rcases List.mem_cons.mp hq with rfl | hq
      · exact le_of_mem_writeText hx
      · obtain ⟨hit, -, rfl⟩ := List.mem_map.mp hq
        exact le_of_mem_writeHit hx

/-- The only control characters of an array are line feeds. -/
theorem mem_writeArray {entries : List Entry} {c : Char} (h : c ∈ writeArray entries) :
    c = '\n' ∨ 0x20 ≤ c.toNat := by
  simp only [writeArray, List.mem_cons, List.mem_append, List.not_mem_nil, or_false] at h
  rcases h with rfl | rfl | h | rfl | rfl
  · exact .inr (by decide)
  · exact .inl rfl
  · rcases mem_intercalate h with h | ⟨p, hp, h⟩
    · simp only [List.mem_cons, List.not_mem_nil, or_false] at h
      rcases h with rfl | rfl
      · exact .inr (by decide)
      · exact .inl rfl
    · obtain ⟨e, -, rfl⟩ := List.mem_map.mp hp
      exact .inr (le_of_mem_writeEntry h)
  · exact .inl rfl
  · exact .inr (by decide)

/-! ## The value -/

/-- The array of a file is read as the list of the records of its entries, by any reader. -/
theorem read_writeArray [Literal.Reader] (entries : List Entry) :
    Literal.read (writeArray entries) =
      .ok (.list (entries.map fun e => e.nested.literal)) := by
  have hroom : Literal.Reader.breakdown? (writeArray entries) = none :=
    Literal.Reader.sustained _ _ (joinLines_writeArray entries) (depth_entries entries)
  have hnul : (writeArray entries).contains '\x00' = false := by
    rw [List.contains_eq_mem, decide_eq_false_iff_not]
    intro h
    rcases mem_writeArray h with h | h
    · exact absurd h (by decide)
    · exact absurd h (by decide)
  have hfirst : Literal.fromFirstToken 0 0 false (writeArray entries) =
      some (writeArray entries) := by
    simp [writeArray, Literal.fromFirstToken]
  have hread := read?_of_joinLines (joinLines_writeArray entries)
  rw [Literal.read, hroom, Literal.expression?, hnul, hfirst, Option.bind_some, hread,
    if_neg (by simp)]
  simp only [Nested.value_expression, Nested.literal_list, List.map_map]
  rfl

end PartitionFile

end DocIndex
