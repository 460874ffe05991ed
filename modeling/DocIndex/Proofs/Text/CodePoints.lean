import DocIndex.Text.CodePoints
import Mathlib.Data.List.DropRight

/-! # Stripped texts

A text begins with no white space once its start is stripped, and stripping its end leaves that
so: a stripped text is its own strip.
-/

namespace DocIndex.Text.CodePoints

theorem points_strip (s : CodePoints) :
    s.strip.points = (s.points.dropWhile isBlank).rdropWhile isBlank := rfl

/-- Stripping the end of a list keeps its first item, if any is left. -/
theorem dropWhile_rdropWhile {p : Nat → Bool} {points : List Nat}
    (h : points.dropWhile p = points) :
    (points.rdropWhile p).dropWhile p = points.rdropWhile p := by
  rw [List.dropWhile_eq_self_iff] at h ⊢
  intro hleft
  have hkept := List.rdropWhile_prefix p (l := points)
  rw [hkept.getElem hleft]
  exact h (hleft.trans_le hkept.length_le)

theorem strip_strip (s : CodePoints) : s.strip.strip = s.strip := by
  have hstart : s.strip.points.dropWhile isBlank = s.strip.points :=
    dropWhile_rdropWhile (List.dropWhile_idempotent isBlank (l := s.points))
  have hpoints : s.strip.strip.points = s.strip.points := by
    rw [points_strip s.strip, hstart, points_strip, List.rdropWhile_idempotent]
  exact congrArg CodePoints.mk hpoints

end DocIndex.Text.CodePoints
