import DocIndex.Proofs.Text.Stripping

/-! # Line ends

Writing every line end as a single line feed changes nothing that a reader can see who treats the
two characters of line ends alike: what he skips, takes, or strips is the same text with its line
ends unified.
-/

namespace DocIndex.Text

/-! ## Unified texts -/

theorem not_mem_unifyLineEnds (s : List Char) : '\r' ∉ unifyLineEnds s := by
  fun_induction unifyLineEnds s with
  | case1 => simp
  | case2 rest ih => simp [ih]
  | case3 rest _ ih => simp [ih]
  | case4 c rest _ hc ih => simp [ih, Ne.symm hc]

theorem unifyLineEnds_unifyLineEnds (s : List Char) :
    unifyLineEnds (unifyLineEnds s) = unifyLineEnds s :=
  unifyLineEnds_eq_self (not_mem_unifyLineEnds s)

@[simp] theorem unifyLineEnds_eq_nil {s : List Char} : unifyLineEnds s = [] ↔ s = [] := by
  fun_cases unifyLineEnds s <;> simp

/-- The character that stands for `c` in a unified text. -/
def unified (c : Char) : Char := if c = '\r' then '\n' else c

theorem unified_of_ne {c : Char} (h : c ≠ '\r') : unified c = c := if_neg h

theorem head?_unifyLineEnds (s : List Char) :
    (unifyLineEnds s).head? = s.head?.map unified := by
  fun_cases unifyLineEnds s with
  | case1 => rfl
  | case2 rest => rfl
  | case3 rest _ => rfl
  | case4 c rest _ hc => simp [unified_of_ne hc]

theorem getLast?_unifyLineEnds (s : List Char) :
    (unifyLineEnds s).getLast? = s.getLast?.map unified := by
  fun_induction unifyLineEnds s with
  | case1 => rfl
  | case2 rest ih =>
      simp only [List.getLast?_cons, ih]
      cases rest.getLast? <;> rfl
  | case3 rest _ ih =>
      simp only [List.getLast?_cons, ih]
      cases rest.getLast? <;> rfl
  | case4 c rest _ hc ih =>
      simp only [List.getLast?_cons, ih]
      cases rest.getLast? with
      | none => simp [unified_of_ne hc]
      | some last => rfl

/-- A part without carriage returns stays as it is before any other. -/
theorem unifyLineEnds_append {s : List Char} (h : '\r' ∉ s) (t : List Char) :
    unifyLineEnds (s ++ t) = s ++ unifyLineEnds t := by
  induction s with
  | nil => rfl
  | cons c s ih =>
      obtain ⟨hc, hs⟩ := not_or.mp (mt List.mem_cons.mpr h)
      rw [List.cons_append, unifyLineEnds_cons (Ne.symm hc), ih hs, List.cons_append]

/-- A last character that ends no line stays as it is. -/
theorem unifyLineEnds_concat {c : Char} (hr : c ≠ '\r') (hn : c ≠ '\n') (s : List Char) :
    unifyLineEnds (s ++ [c]) = unifyLineEnds s ++ [c] := by
  fun_induction unifyLineEnds s with
  | case1 => exact unifyLineEnds_cons hr []
  | case2 rest ih => simp [unifyLineEnds, ih]
  | case3 rest hrest ih =>
      cases rest with
      | nil => simp [unifyLineEnds, hn]
      | cons d rest =>
          have hd : d ≠ '\n' := fun hd => hrest rest (hd ▸ rfl)
          simp [unifyLineEnds, hd, ← ih]
  | case4 d rest _ hd ih => rw [List.cons_append, unifyLineEnds_cons hd, ih, List.cons_append]

/-! ## What is skipped and taken -/

theorem dropWhile_unifyLineEnds {p : Char → Bool} (h : p '\r' = p '\n') (s : List Char) :
    (unifyLineEnds s).dropWhile p = unifyLineEnds (s.dropWhile p) := by
  fun_induction unifyLineEnds s with
  | case1 => rfl
  | case2 rest ih => cases hp : p '\n' <;> simp [hp, h, ih, unifyLineEnds]
  | case3 rest hrest ih => cases hp : p '\n' <;> simp [hp, h, ih, unifyLineEnds]
  | case4 c rest _ hc ih => cases hp : p c <;> simp [hp, ih, unifyLineEnds_cons hc]

theorem takeWhile_unifyLineEnds {p : Char → Bool} (hr : p '\r' = false) (hn : p '\n' = false)
    (s : List Char) : (unifyLineEnds s).takeWhile p = s.takeWhile p := by
  fun_induction unifyLineEnds s with
  | case1 => rfl
  | case2 rest ih => simp [hr, hn]
  | case3 rest _ ih => simp [hr, hn]
  | case4 c rest _ hc ih => cases hp : p c <;> simp [hp, ih]

/-! ## What is stripped -/

theorem isBlank_unified (c : Char) : isBlank (unified c) = isBlank c := by
  by_cases hc : c = '\r'
  · subst hc
    decide
  · rw [unified_of_ne hc]

theorem stripLeft_unifyLineEnds (s : List Char) :
    stripLeft (unifyLineEnds s) = unifyLineEnds (stripLeft s) :=
  dropWhile_unifyLineEnds (by decide) s

/-- White space at the end goes with the characters before it only if they are all white space. -/
theorem stripRight_cons (c : Char) (s : List Char) :
    stripRight (c :: s) = if stripRight s = [] ∧ isBlank c then [] else c :: stripRight s := by
  rw [stripRight, stripRight, List.reverse_cons, List.dropWhile_append]
  by_cases hs : s.reverse.dropWhile isBlank = []
  · cases hc : isBlank c <;> simp [hs, hc]
  · simp [hs]

/-- A text that is not blank begins as before when its end is stripped. -/
theorem head?_stripRight {s : List Char} (h : stripRight s ≠ []) :
    (stripRight s).head? = s.head? := by
  cases s with
  | nil => exact absurd rfl h
  | cons c s =>
      rw [stripRight_cons] at h ⊢
      split
      · rename_i hblank
        exact absurd (if_pos hblank) h
      · rfl

theorem stripRight_unifyLineEnds (s : List Char) :
    stripRight (unifyLineEnds s) = unifyLineEnds (stripRight s) := by
  have hline : isBlank '\n' = true := by decide
  have hreturn : isBlank '\r' = true := by decide
  fun_induction unifyLineEnds s with
  | case1 => rfl
  | case2 rest ih =>
      by_cases hrest : stripRight rest = []
      · simp [stripRight_cons, ih, hrest, hline, hreturn, unifyLineEnds]
      · simp [stripRight_cons, ih, hrest, unifyLineEnds]
  | case3 rest hnext ih =>
      by_cases hrest : stripRight rest = []
      · simp [stripRight_cons, ih, hrest, hline, hreturn, unifyLineEnds]
      · -- What is left of the rest still does not begin with a line feed.
        have hhead := head?_stripRight hrest
        cases hstrip : stripRight rest with
        | nil => exact absurd hstrip hrest
        | cons c left =>
            have hc : c ≠ '\n' := by
              rintro rfl
              rw [hstrip] at hhead
              obtain ⟨more, hmore⟩ := List.head?_eq_some_iff.mp hhead.symm
              exact hnext more hmore
            simp [stripRight_cons, ih, hstrip, unifyLineEnds, hc]
  | case4 c rest _ hc ih =>
      rw [stripRight_cons, stripRight_cons, ih]
      by_cases hblank : stripRight rest = [] ∧ isBlank c = true
      · simp [hblank, unifyLineEnds]
      · simp [hblank, unifyLineEnds_cons hc]

theorem strip_unifyLineEnds (s : List Char) :
    strip (unifyLineEnds s) = unifyLineEnds (strip s) := by
  rw [strip, strip, stripLeft_unifyLineEnds, stripRight_unifyLineEnds]

end DocIndex.Text
