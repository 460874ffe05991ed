import DocIndex.PartitionFile

/-! # The faults of a record

A record that describes no entry is malformed, unless it holds one of the values that break the
whole file: a lone surrogate in a label, a character reference with too many digits, or a number
that is too long to be shown.
-/

namespace DocIndex

open Text

/-! ## Parts of a literal -/

namespace Literal

/-- A literal holds itself and what its items hold. -/
inductive Holds : Literal → Literal → Prop where
  | here (v : Literal) : Holds v v
  | item {v w x : Literal} {items : List Literal} (hitems : v.items? = some items)
      (hmem : x ∈ items) (h : Holds x w) : Holds v w

/-- A literal without any of the values that break a file. -/
structure Tame (v : Literal) : Prop where
  showable : v.isShowable = true
  surrogates : ∀ s, v.Holds (.text s) → s.firstSurrogate? = Option.none
  references : ∀ s, v.Holds (.text s) → Markup.overlong? s.lossy = Option.none

theorem isShowable_of_allShowable {items : List Literal} (h : allShowable items = true)
    {x : Literal} (hx : x ∈ items) : x.isShowable = true := by
  induction items with
  | nil => cases hx
  | cons y rest ih =>
      rw [allShowable, Bool.and_eq_true] at h
      rcases List.mem_cons.mp hx with rfl | hx
      · exact h.1
      · exact ih h.2 hx

theorem allShowable_of_items? {v : Literal} {items : List Literal} (h : v.items? = some items)
    (hv : v.isShowable = true) : allShowable items = true := by
  cases v with
  | list _ =>
      cases h
      rwa [isShowable] at hv
  | tuple _ =>
      cases h
      rwa [isShowable] at hv
  | _ => cases h

theorem Tame.item {v x : Literal} {items : List Literal} (hv : v.Tame)
    (hitems : v.items? = some items) (hx : x ∈ items) : x.Tame where
  showable := isShowable_of_allShowable (allShowable_of_items? hitems hv.showable) hx
  surrogates s hs := hv.surrogates s (.item hitems hx hs)
  references s hs := hv.references s (.item hitems hx hs)

end Literal

/-! ## Records without such values -/

namespace Record

open PartitionFile (ReadError)

variable {α β : Type}

/-- The outcome breaks no file: it is a value, or the fault is that a part is malformed. -/
def Spares (outcome : Except Fault α) : Prop :=
  ∀ fault, outcome = .error fault → ReadError.ofFault? fault = none

theorem spares_ok (a : α) : Spares (.ok a : Except Fault α) := by
  rintro fault ⟨⟩

theorem spares_malformed (flaw : Flaw) :
    Spares (.error (.malformed flaw) : Except Fault α) := by
  rintro fault ⟨⟩
  rfl

theorem spares_flawed {part : Literal} (h : part.isShowable = true)
    (flaw : Literal → Flaw) : Spares (.error (flawed part flaw) : Except Fault α) := by
  rw [flawed, if_pos h]
  exact spares_malformed _

theorem Spares.bind {outcome : Except Fault α} {f : α → Except Fault β}
    (h : Spares outcome) (hf : ∀ a, Spares (f a)) : Spares (outcome >>= f) := by
  cases outcome with
  | ok a => exact hf a
  | error fault =>
      rintro _ ⟨⟩
      exact h fault rfl

theorem Spares.map {outcome : Except Fault α} (h : Spares outcome) (f : α → β) :
    Spares (outcome.map f) :=
  h.bind fun a => spares_ok (f a)

theorem spares_mapM {f : α → Except Fault β} {items : List α}
    (h : ∀ x ∈ items, Spares (f x)) : Spares (items.mapM f) := by
  induction items with
  | nil => exact spares_ok []
  | cons x rest ih =>
      rw [List.mapM_cons]
      refine (h x List.mem_cons_self).bind fun a => ?_
      exact (ih fun y hy => h y (List.mem_cons_of_mem x hy)).bind fun b => spares_ok _

/-- What is not valid as a hit or an entry is malformed. -/
theorem spares_mapError (outcome : Except EntryError α) :
    Spares (outcome.mapError (.malformed ∘ .entry)) := by
  cases outcome with
  | ok a => exact spares_ok a
  | error e => exact spares_malformed (.entry e)

theorem spares_readText {v : Literal} (h : v.Tame) (role : Role) : Spares (readText role v) := by
  unfold readText
  split
  · rename_i s
    rw [h.references s (.here _)]
    exact spares_ok s
  · exact spares_malformed _

theorem spares_readString {v : Literal} (h : v.Tame) (role : Role) :
    Spares (readString role v) :=
  (spares_readText h role).map resolve

theorem spares_readHit {raw : Literal} (h : raw.Tame) : Spares (readHit raw) := by
  rw [readHit]
  split
  · rename_i a b c hitems
    have hall := fun x => h.item (x := x) hitems
    refine (spares_readString (hall a (by simp)) _).bind fun anchor => ?_
    split
    · exact (spares_readString (hall c (by simp)) _).bind fun text => spares_mapError _
    · refine (spares_readString (hall b (by simp)) _).bind fun container => ?_
      exact (spares_readString (hall c (by simp)) _).bind fun fileLabel => spares_mapError _
  · rename_i a b c d hitems
    have hall := fun x => h.item (x := x) hitems
    refine (spares_readString (hall a (by simp)) _).bind fun anchor => ?_
    split
    · exact spares_flawed h.showable _
    · refine (spares_readString (hall b (by simp)) _).bind fun container => ?_
      refine (spares_readString (hall c (by simp)) _).bind fun fileLabel => ?_
      exact (spares_readString (hall d (by simp)) _).bind fun text => spares_mapError _
  · exact spares_flawed h.showable _

/-- The hits of a record are among its items or within one of them. -/
theorem tame_of_mem_rawHits {rest : List Literal} (h : ∀ v ∈ rest, v.Tame) {raw : Literal}
    (hraw : raw ∈ rawHits rest) : raw.Tame := by
  unfold rawHits at hraw
  split at hraw
  · rename_i v
    split at hraw
    · rename_i first others hitems
      split at hraw
      · exact (h v List.mem_cons_self).item hitems hraw
      · exact h raw hraw
    · exact h raw hraw
  · exact h raw hraw

theorem spares_assemble (key : String) {label : CodePoints} (h : label.firstSurrogate? = none)
    (hits : List Hit) : Spares (assemble key label hits) := by
  rw [assemble, h]
  exact spares_mapError _

/-- A text that is read as a label is the label. -/
theorem eq_text_of_readText {role : Role} {v : Literal} {s : CodePoints}
    (h : readText role v = .ok s) : v = .text s := by
  cases v with
  | text t =>
      rw [readText] at h
      split at h <;> cases h
      rfl
  | _ => cases h

theorem spares_read {record : Literal} (h : record.Tame) : Spares (read record) := by
  rw [read]
  split
  · rename_i key body hitems
    have hbody : body.Tame := h.item hitems (by simp)
    split
    · rename_i label rest hparts
      have hrest : ∀ v ∈ rest, v.Tame := fun v hv => hbody.item hparts (List.mem_cons_of_mem _ hv)
      have hlabel : label.Tame := hbody.item hparts List.mem_cons_self
      cases htext : readText .label label with
      | error fault =>
          rintro _ ⟨⟩
          exact spares_readText hlabel .label fault htext
      | ok s =>
          rw [eq_text_of_readText htext] at hlabel
          refine Spares.bind (α := List Hit) ?_ fun hits => ?_
          · exact spares_mapM fun raw hraw => spares_readHit (tame_of_mem_rawHits hrest hraw)
          · exact spares_assemble _ (hlabel.surrogates s (.here _)) hits
    · exact spares_malformed _
  · rename_i key _ _ hitems
    exact spares_flawed (h.item hitems List.mem_cons_self).showable _
  · exact spares_flawed h.showable _

end Record

end DocIndex
