import DocIndex.Proofs.Record.Parts
import DocIndex.Proofs.Record.Scopes

/-! # The two layouts of a record

The hits of a record stand side by side after the label, or in one list of their own. Both records
are read alike, as the entry that the key, the label and the single hits describe. They are told
apart by the first item of what follows the label, so a hit must not itself begin with a list.
-/

namespace DocIndex.Record

variable {key label : Literal} {hits : List Literal}

/-- The record with its hits side by side. -/
def sideBySide (key label : Literal) (hits : List Literal) : Literal :=
  .list [key, .list (label :: hits)]

/-- The record with its hits in a list of their own. -/
def inOneList (key label : Literal) (hits : List Literal) : Literal :=
  .list [key, .list [label, .list hits]]

/-- A list of hits is known by its first hit. -/
theorem rawHits_list (hne : hits ≠ []) (h : ∀ raw ∈ hits, LooksLikeHit raw) :
    rawHits [.list hits] = hits := by
  cases hits with
  | nil => exact absurd rfl hne
  | cons raw others =>
      obtain ⟨first, rest, hitems, -⟩ := h raw List.mem_cons_self
      have hlist : (Literal.list (raw :: others)).items? = some (raw :: others) := rfl
      simp [rawHits, hlist, hitems]

/-- The layout of the hits makes no difference. -/
structure LayoutsAgree (key label : Literal) (hits : List Literal) : Prop where
  same : read (sideBySide key label hits) = read (inOneList key label hits)
  /-- Each record has these hits: a single one beside the label is no list of hits, and the list of
  them is no hit. -/
  found : rawHits hits = hits ∧ rawHits [.list hits] = hits
  /-- An entry is read exactly if it has the key, the label and each of the hits, in order. -/
  described : ∀ e, read (sideBySide key label hits) = .ok e ↔ Describes key label hits e

theorem layoutsAgree_of_looksLikeHit (hne : hits ≠ []) (h : ∀ raw ∈ hits, LooksLikeHit raw) :
    LayoutsAgree key label hits := by
  have hbeside := rawHits_eq_self h
  have hwithin := rawHits_list hne h
  have hside : read (sideBySide key label hits) = readParts key label hits := by
    rw [read_eq_readParts rfl rfl, hbeside]
  have hlist : read (inOneList key label hits) = readParts key label hits := by
    rw [read_eq_readParts rfl rfl, hwithin]
  refine ⟨hside.trans hlist.symm, ⟨hbeside, hwithin⟩, fun e => ?_⟩
  rw [hside]
  exact readParts_eq_ok_iff

theorem looksLikeHit_olderHit (text : String) : LooksLikeHit (olderHit text) :=
  ⟨_, _, items?_olderHit text, rfl⟩

/-- A single older hit is a list after the label, but it begins with a text. -/
theorem layoutsAgree_area :
    [olderHit "Shape::area()"] ≠ [] ∧ (∀ raw ∈ [olderHit "Shape::area()"], LooksLikeHit raw) ∧
      LayoutsAgree (.ofString "area") (.ofString "Area") [olderHit "Shape::area()"] := by
  have hne : [olderHit "Shape::area()"] ≠ [] := List.cons_ne_nil _ _
  have hlooks : ∀ raw ∈ [olderHit "Shape::area()"], LooksLikeHit raw :=
    List.forall_mem_singleton.mpr (looksLikeHit_olderHit _)
  exact ⟨hne, hlooks, layoutsAgree_of_looksLikeHit hne hlooks⟩

example : (read (inOneList (.ofString "area") (.ofString "Area")
    [olderHit "Shape::area()", olderHit "Circle::area()"])).toOption.map
      (·.hits.map Hit.container) = some ["Shape", "Circle"] := by decide +kernel

end DocIndex.Record
