import DocIndex.Text.Blank
import DocIndex.Text.Split

/-! # White space and line ends at the edges of texts -/

namespace DocIndex.Text

/-! ## Stripping -/

theorem stripLeft_cons_of_blank {c : Char} (h : isBlank c = true) (s : List Char) :
    stripLeft (c :: s) = stripLeft s := by
  simp [stripLeft, h]

theorem stripLeft_cons_of_not_blank {c : Char} (h : isBlank c = false) (s : List Char) :
    stripLeft (c :: s) = c :: s := by
  simp [stripLeft, h]

theorem stripRight_append_of_blank {c : Char} (h : isBlank c = true) (s : List Char) :
    stripRight (s ++ [c]) = stripRight s := by
  simp [stripRight, h]

theorem stripRight_append_of_not_blank {c : Char} (h : isBlank c = false) (s : List Char) :
    stripRight (s ++ [c]) = s ++ [c] := by
  simp [stripRight, h]

/-- The characters of ASCII from the exclamation mark on are no white space. -/
theorem isBlank_of_ascii {c : Char} (hlow : 0x20 < c.toNat) (hhigh : c.toNat < 0x80) :
    isBlank c = false := by
  rw [← Bool.not_eq_true, isBlank, inRanges_iff]
  rintro ⟨r, hr, hfirst, hlast⟩
  simp only [blankRanges, List.mem_cons, List.not_mem_nil, or_false] at hr
  rcases hr with rfl | rfl | rfl | rfl | rfl | rfl | rfl | rfl | rfl | rfl <;>
    simp only at hfirst hlast <;> omega

/-! ## Line ends -/

theorem unifyLineEnds_cons {c : Char} (h : c ≠ '\r') (s : List Char) :
    unifyLineEnds (c :: s) = c :: unifyLineEnds s := by
  simp [unifyLineEnds, h]

/-- A text without carriage returns has its line ends unified. -/
theorem unifyLineEnds_eq_self {s : List Char} (h : '\r' ∉ s) : unifyLineEnds s = s := by
  induction s with
  | nil => rfl
  | cons c s ih =>
      obtain ⟨hc, hs⟩ := not_or.mp (mt List.mem_cons.mpr h)
      rw [unifyLineEnds_cons (Ne.symm hc), ih hs]

end DocIndex.Text
