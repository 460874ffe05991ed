import DocIndex.Json.Basic
import Mathlib.Data.List.Basic

/-! # The fields of objects

Setting a field is seen in that field only: the others keep their values and their order, and all
names stay where they are, a new one coming last.
-/

namespace DocIndex.Json.Fields

open Text

variable {fields : Fields} {name : CodePoints} {v : Json}

theorem get?_cons (n : CodePoints) (w : Json) (rest : Fields) :
    get? ((n, w) :: rest) name = if n = name then some w else get? rest name := by
  by_cases hn : n = name
  · simp [get?, hn]
  · rw [get?, List.lookup_cons, beq_false_of_ne (Ne.symm hn), if_neg hn]
    rfl

theorem get?_set_self (fields : Fields) (name : CodePoints) (v : Json) :
    (fields.set name v).get? name = some v := by
  induction fields with
  | nil => simp [set, get?_cons]
  | cons field rest ih =>
      obtain ⟨n, w⟩ := field
      by_cases hn : n = name
      · simp [set, get?_cons, hn]
      · simp [set, get?_cons, hn, ih]

theorem get?_set_of_ne {other : CodePoints} (h : other ≠ name) (fields : Fields) (v : Json) :
    (fields.set name v).get? other = fields.get? other := by
  induction fields with
  | nil => simp [set, get?_cons, Ne.symm h]
  | cons field rest ih =>
      obtain ⟨n, w⟩ := field
      by_cases hn : n = name
      · simp [set, get?_cons, hn, Ne.symm h]
      · simp [set, get?_cons, hn, ih]

/-- Setting a field to the value that it has changes nothing. -/
theorem set_eq_self (h : fields.get? name = some v) : fields.set name v = fields := by
  induction fields with
  | nil => cases h
  | cons field rest ih =>
      obtain ⟨n, w⟩ := field
      rw [get?_cons] at h
      by_cases hn : n = name
      · rw [if_pos hn] at h
        cases h
        simp [set, hn]
      · rw [if_neg hn] at h
        rw [set, if_neg hn, ih h]

/-- The fields of other names keep their values and their order. -/
theorem filter_set {p : CodePoints → Bool} (h : p name = false) (fields : Fields) (v : Json) :
    (fields.set name v).filter (fun field => p field.1) =
      fields.filter fun field => p field.1 := by
  induction fields with
  | nil => simp [set, h]
  | cons field rest ih =>
      obtain ⟨n, w⟩ := field
      by_cases hn : n = name
      · subst hn
        simp [set, h]
      · rw [set, if_neg hn, List.filter_cons, List.filter_cons, ih]

/-- The names stay where they are. -/
theorem names_prefix_set (fields : Fields) (name : CodePoints) (v : Json) :
    fields.map (·.1) <+: (fields.set name v).map (·.1) := by
  induction fields with
  | nil => exact List.nil_prefix
  | cons field rest ih =>
      obtain ⟨n, w⟩ := field
      by_cases hn : n = name
      · simp [set, hn]
      · rw [set, if_neg hn, List.map_cons, List.map_cons]
        exact (List.prefix_cons_inj n).mpr ih

end DocIndex.Json.Fields
