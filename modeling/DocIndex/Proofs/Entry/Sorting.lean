import DocIndex.Entry

/-! # Sorting entries

Sorting is stable: the entries of one key keep their order, so the first of them stays the first.
-/

namespace DocIndex.Entry

/-! ## The order of keys -/

theorem keyLE_iff (a b : Entry) : keyLE a b = true ↔ a.key ≤ b.key := by
  simp [keyLE]

theorem keyLE_trans (a b c : Entry) (hab : keyLE a b = true) (hbc : keyLE b c = true) :
    keyLE a c = true := by
  rw [keyLE_iff] at *
  exact String.le_trans hab hbc

theorem keyLE_total (a b : Entry) : (keyLE a b || keyLE b a) = true := by
  rw [Bool.or_eq_true, keyLE_iff, keyLE_iff]
  exact String.le_total _ _

/-! ## Sorted lists -/

theorem sort_perm (entries : List Entry) : (sort entries).Perm entries :=
  entries.mergeSort_perm keyLE

theorem mem_sort {entries : List Entry} {e : Entry} : e ∈ sort entries ↔ e ∈ entries :=
  (sort_perm entries).mem_iff

theorem length_sort (entries : List Entry) : (sort entries).length = entries.length :=
  (sort_perm entries).length_eq

theorem sort_pairwise (entries : List Entry) :
    (sort entries).Pairwise fun a b => a.key ≤ b.key := by
  have hsorted := List.pairwise_mergeSort keyLE_trans keyLE_total entries
  exact hsorted.imp fun {a b} h => (keyLE_iff a b).mp h

/-- A sorted list is left as it is. -/
theorem sort_eq_self {entries : List Entry} (h : entries.Pairwise fun a b => a.key ≤ b.key) :
    sort entries = entries :=
  List.mergeSort_of_pairwise (h.imp fun {a b} hab => (keyLE_iff a b).mpr hab)

/-! ## Distinct keys -/

theorem pairwise_lt {entries : List Entry} (hle : entries.Pairwise fun a b => a.key ≤ b.key)
    (hne : entries.Pairwise fun a b => a.key ≠ b.key) :
    entries.Pairwise fun a b => a.key < b.key := by
  refine (hle.and hne).imp fun {a b} h => ?_
  rw [← String.not_le]
  exact fun hba => h.2 (String.le_antisymm h.1 hba)

theorem sort_pairwise_lt {entries : List Entry} (h : entries.Pairwise fun a b => a.key ≠ b.key) :
    (sort entries).Pairwise fun a b => a.key < b.key :=
  pairwise_lt (sort_pairwise entries) ((sort_perm entries).symm.pairwise h fun hne => Ne.symm hne)

/-- Entries with distinct keys can be chosen before or after sorting. -/
theorem sort_filter {entries : List Entry} (h : entries.Pairwise fun a b => a.key ≠ b.key)
    (p : Entry → Bool) : sort (entries.filter p) = (sort entries).filter p := by
  have hperm : (sort (entries.filter p)).Perm ((sort entries).filter p) :=
    (sort_perm _).trans ((sort_perm entries).filter p).symm
  refine hperm.eq_of_pairwise ?_ (sort_pairwise_lt (h.filter p)) ((sort_pairwise_lt h).filter p)
  intro a b _ _ hab hba
  exact absurd hba (String.lt_asymm hab)

/-! ## Stability -/

/-- Entries of one key keep their order. -/
theorem filter_key_sort (entries : List Entry) (key : String) :
    (sort entries).filter (·.key = key) = entries.filter (·.key = key) := by
  have hperm := (sort_perm entries).filter (·.key = key)
  have hordered : (entries.filter (·.key = key)).Pairwise fun a b => keyLE a b = true := by
    rw [List.pairwise_filter]
    refine List.pairwise_of_forall fun a b ha hb => ?_
    rw [decide_eq_true_eq] at ha hb
    simp [keyLE_iff, ha, hb]
  have hsub := List.sublist_mergeSort keyLE_trans keyLE_total hordered List.filter_sublist
  have hfiltered := hsub.filter (·.key = key)
  rw [List.filter_filter] at hfiltered
  simp only [Bool.and_self] at hfiltered
  exact (hfiltered.eq_of_length hperm.length_eq.symm).symm

/-- The first entry of a key is the same before and after sorting. -/
theorem find?_key_sort (entries : List Entry) (key : String) :
    (sort entries).find? (·.key = key) = entries.find? (·.key = key) := by
  rw [← List.head?_filter, ← List.head?_filter, filter_key_sort]

end DocIndex.Entry
