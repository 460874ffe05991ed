import DocIndex.Proofs.Key.Characters
import DocIndex.Proofs.Key.Reading
import DocIndex.Proofs.Query.Filtering

/-! # Keys that begin other keys

No written character begins another one. So a key begins another key only where the lower-case
form of the one label begins that of the other, and the cut never falls within an escape.
-/

namespace DocIndex.Key

open Text

/-! ## Bytes -/

theorem escapeByte_injective {a b : UInt8} (h : escapeByte a = escapeByte b) : a = b := by
  have hread := bytesFrom_escapeByte 0 a []
  rw [h, bytesFrom_escapeByte] at hread
  exact (List.cons.inj (Except.ok.inj hread)).1.symm

/-- Two runs of escapes that begin alike are those of bytes that begin alike. -/
theorem isPrefix_or_of_escapeBytes {u v : List UInt8} {s t : List Char}
    (h : u.flatMap escapeByte ++ s = v.flatMap escapeByte ++ t) : u <+: v ∨ v <+: u := by
  induction u generalizing v with
  | nil => exact .inl List.nil_prefix
  | cons a u ih =>
      cases v with
      | nil => exact .inr List.nil_prefix
      | cons b v =>
          rw [List.flatMap_cons, List.flatMap_cons, List.append_assoc, List.append_assoc] at h
          obtain ⟨hbyte, hrest⟩ := List.append_inj h rfl
          obtain rfl := escapeByte_injective hbyte
          rw [List.prefix_cons_inj, List.prefix_cons_inj]
          exact ih hrest

/-! ## Characters -/

theorem ne_mark_of_isSafe {c : Char} (h : isSafe c = true) : c ≠ '_' := by
  rintro rfl
  exact absurd h (by decide)

/-- A character that is not safe is written with a mark before it. -/
theorem escapeChar_of_not_isSafe {c : Char} (h : isSafe c = false) :
    ∃ rest, escapeChar c = '_' :: rest := by
  have hescape : escapeChar c = (String.utf8EncodeChar c).flatMap escapeByte := by
    rw [escapeChar, h]
    rfl
  cases hbytes : String.utf8EncodeChar c with
  | nil => exact absurd hbytes (String.utf8EncodeChar_ne_nil)
  | cons b bytes => exact ⟨_, by rw [hescape, hbytes]; rfl⟩

/-- No written character begins another one. -/
theorem escapeChar_append_inj {c d : Char} {s t : List Char}
    (h : escapeChar c ++ s = escapeChar d ++ t) : c = d ∧ s = t := by
  suffices hchar : c = d by
    subst hchar
    exact ⟨rfl, List.append_cancel_left h⟩
  cases hc : isSafe c with
  | true =>
      cases hd : isSafe d with
      | true =>
          rw [escapeChar, escapeChar, if_pos hc, if_pos hd] at h
          exact (List.cons.inj h).1
      | false =>
          obtain ⟨rest, hrest⟩ := escapeChar_of_not_isSafe hd
          rw [escapeChar, if_pos hc, hrest] at h
          exact absurd (List.cons.inj h).1 (ne_mark_of_isSafe hc)
  | false =>
      cases hd : isSafe d with
      | true =>
          obtain ⟨rest, hrest⟩ := escapeChar_of_not_isSafe hc
          rw [hrest, escapeChar, if_pos hd] at h
          exact absurd (List.cons.inj h).1.symm (ne_mark_of_isSafe hd)
      | false =>
          simp only [escapeChar, hc, hd, Bool.false_eq_true, if_false] at h
          rcases isPrefix_or_of_escapeBytes h with hbegins | hbegins
          · exact Utf8.eq_of_encodeChar_isPrefix hbegins
          · exact (Utf8.eq_of_encodeChar_isPrefix hbegins).symm

/-! ## Texts -/

/-- What is left of a written text after one that begins it is what is left of the text. -/
theorem exists_rest_of_escape_append {s t tail : List Char} (h : escape s ++ tail = escape t) :
    ∃ rest, s ++ rest = t ∧ tail = escape rest := by
  induction s generalizing t with
  | nil => exact ⟨t, rfl, h⟩
  | cons c s ih =>
      rw [escape_cons, List.append_assoc] at h
      cases t with
      | nil => exact absurd (List.append_eq_nil_iff.mp h).1 (escapeChar_ne_nil c)
      | cons d t =>
          rw [escape_cons] at h
          obtain ⟨rfl, hrest⟩ := escapeChar_append_inj h
          obtain ⟨rest, hst, htail⟩ := ih hrest
          exact ⟨rest, by rw [List.cons_append, hst], htail⟩

theorem escape_isPrefix_iff {s t : List Char} : escape s <+: escape t ↔ s <+: t := by
  constructor
  · rintro ⟨tail, h⟩
    obtain ⟨rest, hrest, -⟩ := exists_rest_of_escape_append h
    exact ⟨rest, hrest⟩
  · rintro ⟨rest, rfl⟩
    rw [escape_append]
    exact List.prefix_append _ _

/-! ## Labels -/

/-- A query begins a label by their keys if it does so in lower case. -/
structure BeginsAlike (query label : String) : Prop where
  isPrefix : (normalize query).toList <+: (normalize label).toList ↔
    (lowered query).toList <+: (lowered label).toList
  /-- What is left of the key is what is left of the label as it is written in keys: the query ends
  between two characters, not within an escape. -/
  rest : ∀ tail, (normalize query).toList ++ tail = (normalize label).toList →
    ∃ rest, (lowered query).toList ++ rest = (lowered label).toList ∧ tail = escape rest
  /-- So a query matches the entries whose label it begins. -/
  matchesKey : ∀ e : Entry, e.label = label → (Query.matchesKey (normalize query) e = true ↔
    (lowered query).toList <+: (lowered label).toList)

/-- The key of a query begins exactly the keys of the labels that the query begins. -/
theorem normalize_begins_alike (query label : String) : BeginsAlike query label := by
  have hbegins : (normalize query).toList <+: (normalize label).toList ↔
      (lowered query).toList <+: (lowered label).toList := by
    rw [toList_normalize, toList_normalize, escape_isPrefix_iff]
  refine ⟨hbegins, fun tail htail => ?_, fun e he => ?_⟩
  · rw [toList_normalize, toList_normalize] at htail
    exact exists_rest_of_escape_append htail
  · rw [Query.matchesKey_iff, ← e.normalize_label, he]
    exact hbegins

/-- The bytes of two characters may begin alike, though neither begins the other. -/
example : String.utf8EncodeChar 'ä' = [0xc3, 0xa4] ∧ String.utf8EncodeChar 'ã' = [0xc3, 0xa3] ∧
    ¬(normalize "Ä").toList <+: (normalize "Ãb").toList := by decide +kernel

end DocIndex.Key
