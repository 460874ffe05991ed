import DocIndex.Markup.Reference
import DocIndex.Text.CodePoints

/-! # Escaped texts are resolved to themselves -/

namespace DocIndex.Markup

/-- How a character is written. -/
def escapeOne (c : Char) : List Char :=
  if c = '&' then ['&', 'a', 'm', 'p', ';']
  else if c = '<' then ['&', 'l', 't', ';']
  else if c = '>' then ['&', 'g', 't', ';']
  else [c]

theorem escape_cons (c : Char) (s : List Char) : escape (c :: s) = escapeOne c ++ escape s := rfl

/-- The forms in which a character is written: a reference by name, or itself. -/
theorem escapeOne_cases (c : Char) :
    (c = '&' ∧ escapeOne c = ['&', 'a', 'm', 'p', ';']) ∨
    (c = '<' ∧ escapeOne c = ['&', 'l', 't', ';']) ∨
    (c = '>' ∧ escapeOne c = ['&', 'g', 't', ';']) ∨
    (c ≠ '&' ∧ escapeOne c = [c]) := by
  unfold escapeOne
  by_cases hamp : c = '&'
  · simp [hamp]
  by_cases hlt : c = '<'
  · simp [hlt]
  by_cases hgt : c = '>'
  · simp [hgt]
  · simp [hamp, hlt, hgt]

/-- A written character is read back, and reading goes on after it. -/
theorem unescapeFrom_escapeOne (c : Char) (rest : List Char) :
    unescapeFrom .plain (escapeOne c ++ rest) = c :: unescapeFrom .plain rest := by
  rcases escapeOne_cases c with ⟨rfl, h⟩ | ⟨rfl, h⟩ | ⟨rfl, h⟩ | ⟨hne, h⟩
  · rw [h]; rfl
  · rw [h]; rfl
  · rw [h]; rfl
  · rw [h]
    simp [unescapeFrom, Progress.step, openPlain, hne]

@[simp] theorem unescape_escape (s : List Char) : unescape (escape s) = s := by
  induction s with
  | nil => rfl
  | cons c s ih =>
      rw [unescape, escape_cons, unescapeFrom_escapeOne]
      exact congrArg (c :: ·) ih

/-- No number is written in an escaped text. -/
@[simp] theorem overlong?_escape (s : List Char) : overlong? (escape s) = none := by
  induction s with
  | nil => rfl
  | cons c s ih =>
      rw [escape_cons]
      rcases escapeOne_cases c with ⟨-, h⟩ | ⟨-, h⟩ | ⟨-, h⟩ | ⟨hne, h⟩
      · simp [h, overlong?, ih]
      · simp [h, overlong?, ih]
      · simp [h, overlong?, ih]
      · simp [h, hne, overlong?, ih]

/-- A text without references and tags is written as it is. -/
theorem escape_eq_self {s : List Char} (h : ∀ c ∈ s, c ≠ '&' ∧ c ≠ '<' ∧ c ≠ '>') :
    escape s = s := by
  induction s with
  | nil => rfl
  | cons c s ih =>
      obtain ⟨hamp, hlt, hgt⟩ := h c (by simp)
      rw [escape_cons, ih fun d hd => h d (by simp [hd])]
      simp [escapeOne, hamp, hlt, hgt]

end DocIndex.Markup

namespace DocIndex.Text.CodePoints

/-- The code points that a text is written with. -/
def escaped (s : String) : CodePoints := .ofChars (Markup.escape s.toList)

end DocIndex.Text.CodePoints
