import DocIndex.Proofs.Expression.Nested
import DocIndex.Proofs.Key.Characters
import DocIndex.Proofs.Markup.Escaping
import DocIndex.Proofs.Outcomes
import DocIndex.Record

/-! # A written entry is read back

An entry is written as a record of escaped texts. Reading the record gives the entry with the
same key, label and hits, but for empty disambiguators, which are none.
-/

namespace DocIndex

open Text

/-! ## The record of an entry -/

/-- The hit as it is read back: an empty disambiguator is none. -/
def Hit.asRead (hit : Hit) : Hit :=
  { hit with disambiguator := hit.disambiguator.filter (· ≠ "") }

/-- The entry as it is read back. -/
def Entry.asRead (e : Entry) : Entry :=
  { e with
    hits := e.hits.map Hit.asRead
    hits_ne := by simpa using e.hits_ne }

@[simp] theorem Entry.asRead_key (e : Entry) : e.asRead.key = e.key := rfl

/-- The texts of a hit in the order in which they are written. -/
def Hit.texts (hit : Hit) : List String :=
  hit.anchor :: hit.container :: hit.fileLabel :: hit.disambiguator.toList

/-- A text as an item of a record. -/
def Nested.ofString (s : String) : Nested := .text (.escaped s)

/-- A hit as an item of a record. -/
def Hit.nested (hit : Hit) : Nested := .list (hit.texts.map .ofString)

/-- The record of an entry. -/
def Entry.nested (e : Entry) : Nested :=
  .list [.ofString e.key, .list (.ofString e.label :: e.hits.map Hit.nested)]

/-! ## Texts -/

namespace Text.CodePoints

theorem isSurrogate_toNat (c : Char) : isSurrogate c.toNat = false := by
  have hvalid := c.valid
  simp only [isSurrogate, Bool.and_eq_false_iff, decide_eq_false_iff_not]
  rcases hvalid with h | ⟨h, -⟩
  · left
    have hlt : c.toNat < 0xd800 := h
    omega
  · right
    have hlt : 0xdfff < c.toNat := h
    omega

@[simp] theorem lossy_ofChars (s : List Char) : (ofChars s).lossy = s := by
  simp [lossy, ofChars, Function.comp_def, isSurrogate_toNat]

@[simp] theorem firstSurrogate?_ofChars (s : List Char) : (ofChars s).firstSurrogate? = none := by
  simp [firstSurrogate?, ofChars, isSurrogate_toNat]

end Text.CodePoints

namespace Record

theorem resolve_escaped (s : String) : resolve (.escaped s) = s := by
  simp [resolve, CodePoints.escaped]

theorem readText_ofString (role : Role) (s : String) :
    readText role (Nested.ofString s).literal = .ok (.escaped s) := by
  simp [readText, Nested.ofString, Nested.literal, CodePoints.escaped]

theorem readString_ofString (role : Role) (s : String) :
    readString role (Nested.ofString s).literal = .ok s := by
  rw [readString, readText_ofString]
  exact congrArg Except.ok (resolve_escaped s)

/-- Keys hold no characters that are written as references. -/
theorem escaped_key (e : Entry) : CodePoints.escaped e.key = .ofString e.key := by
  have hplain : ∀ c ∈ e.key.toList, c ≠ '&' ∧ c ≠ '<' ∧ c ≠ '>' := by
    intro c hc
    rw [← e.normalize_label] at hc
    rcases Key.mem_normalize hc with rfl | hsafe
    · decide
    · refine ⟨?_, ?_, ?_⟩ <;> rintro rfl <;> exact absurd hsafe (by decide)
  rw [CodePoints.escaped, Markup.escape_eq_self hplain]
  rfl

/-! ## Hits -/

theorem hitAt_of_anchor (hit : Hit) (scope : Scope) :
    hitAt hit.anchor scope = .ok
      { hit with
        container := String.ofList scope.container
        fileLabel := String.ofList scope.fileLabel
        disambiguator := scope.disambiguator.map String.ofList } := by
  rw [hitAt, Hit.make, dif_neg hit.anchor_ne]
  rfl

theorem hitOf_of_anchor (hit : Hit) (text : String) :
    hitOf hit.anchor hit.container hit.fileLabel text =
      .ok { hit with disambiguator := if text = "" then none else some text } := by
  rw [hitOf, hitAt_of_anchor]
  by_cases htext : text = ""
  · simp [nonempty?, htext]
  · simp [nonempty?, htext]

theorem isInt_ofString (s : String) : (Nested.ofString s).literal.isInt = false := by
  simp [Nested.ofString, Nested.literal, Literal.isInt]

theorem readHit_nested (hit : Hit) : readHit hit.nested.literal = .ok hit.asRead := by
  have hitems : hit.nested.literal.items? =
      some (hit.texts.map fun s => (Nested.ofString s).literal) := by
    rw [Hit.nested, Nested.literal_list, List.map_map]
    rfl
  cases hd : hit.disambiguator with
  | none =>
      have htexts : hit.texts = [hit.anchor, hit.container, hit.fileLabel] := by
        simp [Hit.texts, hd]
      rw [readHit, hitems, htexts]
      simp only [List.map_cons, List.map_nil, readString_ofString, isInt_ofString]
      simp [bind, Except.bind, hitOf_of_anchor, Hit.asRead, hd]
  | some text =>
      have htexts : hit.texts = [hit.anchor, hit.container, hit.fileLabel, text] := by
        simp [Hit.texts, hd]
      rw [readHit, hitems, htexts]
      simp only [List.map_cons, List.map_nil, readString_ofString, isInt_ofString]
      by_cases htext : text = ""
      · simp [bind, Except.bind, hitOf_of_anchor, Hit.asRead, hd, htext, Option.filter_some]
      · simp [bind, Except.bind, hitOf_of_anchor, Hit.asRead, hd, htext, Option.filter_some]

/-- A list or tuple that begins with an item that is neither. -/
def LooksLikeHit (raw : Literal) : Prop :=
  ∃ first others, raw.items? = some (first :: others) ∧ first.items? = none

/-- Hits that stand side by side are not taken for a list of hits, nor is a single one. -/
theorem rawHits_eq_self {hits : List Literal} (h : ∀ raw ∈ hits, LooksLikeHit raw) :
    rawHits hits = hits := by
  match hits with
  | [] => rfl
  | [raw] =>
      obtain ⟨first, others, hitems, hfirst⟩ := h raw List.mem_cons_self
      simp [rawHits, hitems, hfirst]
  | _ :: _ :: _ => rfl

theorem looksLikeHit_nested (hit : Hit) : LooksLikeHit hit.nested.literal := by
  rw [Hit.nested, Nested.literal_list, Hit.texts]
  exact ⟨_, _, rfl, by simp [Nested.ofString, Nested.literal, Literal.items?]⟩

theorem rawHits_nested (hits : List Hit) :
    rawHits (hits.map fun hit => hit.nested.literal) = hits.map fun hit => hit.nested.literal :=
  rawHits_eq_self (List.forall_mem_map.mpr fun hit _ => looksLikeHit_nested hit)

theorem mapM_readHit (hits : List Hit) :
    (hits.map fun hit => hit.nested.literal).mapM readHit = .ok (hits.map Hit.asRead) :=
  mapM_eq_ok_iff.mpr (by simp [readHit_nested])

/-! ## Entries -/

theorem assemble_escaped (e : Entry) :
    assemble e.key (.escaped e.label) (e.hits.map Hit.asRead) = .ok e.asRead := by
  have hlabel : (CodePoints.escaped e.label).firstSurrogate? = none := by
    simp [CodePoints.escaped]
  have hmake : Entry.make e.key (resolve (.escaped e.label)) (e.hits.map Hit.asRead) =
      .ok e.asRead := Entry.make_eq_ok_iff.mpr ⟨rfl, (resolve_escaped e.label).symm, rfl⟩
  rw [assemble, hlabel, hmake]
  rfl

/-- The record of an entry is read as the entry. -/
theorem read_nested (e : Entry) : read e.nested.literal = .ok e.asRead := by
  have hkey : (Nested.ofString e.key).literal = .text (.ofString e.key) := by
    rw [Nested.ofString, escaped_key, Nested.literal]
  have hhits : (e.hits.map Hit.nested).map Nested.literal =
      e.hits.map fun hit => hit.nested.literal := by
    rw [List.map_map]
    rfl
  have hitems : e.nested.literal.items? = some [.text (.ofString e.key),
      .list ((Nested.ofString e.label).literal :: e.hits.map fun hit => hit.nested.literal)] := by
    rw [Entry.nested, Nested.literal_list, List.map_cons, List.map_cons, List.map_nil, hkey,
      Nested.literal_list, List.map_cons, hhits]
    rfl
  have hname : String.ofList (CodePoints.ofString e.key).lossy = e.key := by
    simp [CodePoints.ofString]
  rw [read, hitems]
  simp only [Literal.items?, readText_ofString, rawHits_nested, mapM_readHit, bind, Except.bind,
    hname, assemble_escaped]

end Record

end DocIndex
