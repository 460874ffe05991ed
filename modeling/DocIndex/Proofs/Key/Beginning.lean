import DocIndex.Proofs.Key.Characters
import DocIndex.Proofs.Text.Lowering

/-! # Keys of beginnings

The key of a label begins with the key of each beginning of the label that does not cut a word
after a capital sigma.
-/

namespace DocIndex.Key

open Text

/-- The two small sigmas have different keys, of the same length. -/
theorem not_isPrefix_escapeChar_sigma (s t : List Char) :
    ¬escapeChar 'ς' ++ s <+: escapeChar 'σ' ++ t := by
  have hfinal : escapeChar 'ς' = ['_', 'c', 'f', '_', '8', '2'] := by decide
  have hinner : escapeChar 'σ' = ['_', 'c', 'f', '_', '8', '3'] := by decide
  rw [hfinal, hinner]
  simp [List.cons_prefix_cons]

theorem normalize_isPrefix_iff (start rest : String) :
    (normalize start).toList <+: (normalize (start ++ rest)).toList ↔
      ¬CutsWord [] start.toList rest.toList := by
  simp only [normalize, String.toList_ofList, String.toList_append, lower]
  constructor
  · intro hbegins hcuts
    obtain ⟨lowered, tail, others, hstart, hwhole⟩ := hcuts.exists_lowerAfter
    rw [hstart, hwhole, escape_append, escape_append, List.prefix_append_right_inj] at hbegins
    exact not_isPrefix_escapeChar_sigma _ _ hbegins
  · intro hcuts
    rw [lowerAfter_append hcuts, escape_append]
    exact List.prefix_append _ _

end DocIndex.Key
