import DocIndex.Text.Lowercase

/-! # Texts in lower case

No character of a lower-case form has another lower-case form. So a text that is lowered twice is
lowered once.
-/

namespace DocIndex.Text

/-! ## Runs of the table -/

namespace CaseRun

variable {run other : CaseRun} {n m : Nat}

/-- The lower-case form of a character of the run. -/
def lowered (run : CaseRun) (n : Nat) : Nat := ((n : Int) + run.shift).toNat

/-- Whether the run holds one character, or every other one of its range. -/
def isSpaced (run : CaseRun) : Bool := run.step == 2 || run.first == run.last

/-- Whether the lower-case forms of `run` are no characters of `other`: they lie apart from them, or
in between. -/
def avoids (run other : CaseRun) : Bool :=
  (run.lowered run.last).blt other.first || other.last.blt (run.lowered run.first) ||
    run.isSpaced && other.isSpaced && (run.lowered run.first + other.first) % 2 == 1

/-- Whether the lower-case forms of the run are characters other than a capital I with a dot, and
of ASCII small letters only. -/
def isSound (run : CaseRun) : Bool :=
  let first := run.lowered run.first
  let last := run.lowered run.last
  (last.blt 0x130 || Nat.blt 0x130 first) &&
    (last.blt 0xd800 || Nat.blt 0xdfff first && last.blt 0x110000) &&
    (Nat.ble 0x80 first || Nat.ble 0x61 first && last.ble 0x7a)

theorem lower?_eq_some (h : run.lower? n = some m) :
    run.first ≤ n ∧ n ≤ run.last ∧ (n - run.first) % run.step = 0 ∧ m = run.lowered n := by
  unfold lower? at h
  split at h
  · rename_i hmem
    exact ⟨hmem.1, hmem.2.1, hmem.2.2, (Option.some.inj h).symm⟩
  · cases h

/-- The lower-case forms of a run lie within its range, moved by its shift. -/
theorem lowered_bounds (h : run.lower? n = some m) :
    run.lowered run.first ≤ m ∧ m ≤ run.lowered run.last := by
  obtain ⟨hfirst, hlast, -, rfl⟩ := lower?_eq_some h
  unfold lowered
  omega

theorem pos_of_isSound (hsound : run.isSound = true) : 0 < run.lowered run.first := by
  simp only [isSound, Bool.or_eq_true, Bool.and_eq_true, Nat.ble_eq] at hsound
  omega

theorem even_of_isSpaced (hspaced : run.isSpaced = true) (h : run.lower? n = some m) :
    (n - run.first) % 2 = 0 := by
  obtain ⟨hfirst, hlast, hstep, -⟩ := lower?_eq_some h
  rw [isSpaced, Bool.or_eq_true, beq_iff_eq, beq_iff_eq] at hspaced
  rcases hspaced with htwo | hone
  · rwa [htwo] at hstep
  · omega

/-- What a run gives is no character of a run that it avoids. -/
theorem lower?_eq_none_of_avoids (hsound : run.isSound = true) (havoids : run.avoids other = true)
    (h : run.lower? n = some m) : other.lower? m = none := by
  cases hother : other.lower? m with
  | none => rfl
  | some k =>
      exfalso
      obtain ⟨hfirst, hlast, -, hm⟩ := lower?_eq_some h
      obtain ⟨hfirst', hlast', -, -⟩ := lower?_eq_some hother
      obtain ⟨hlow, hhigh⟩ := lowered_bounds h
      simp only [avoids, Bool.or_eq_true, Bool.and_eq_true, Nat.blt_eq, beq_iff_eq] at havoids
      rcases havoids with (habove | hbelow) | ⟨⟨hspaced, hspaced'⟩, hodd⟩
      · omega
      · omega
      · have hpos := pos_of_isSound hsound
        have heven := even_of_isSpaced hspaced h
        have heven' := even_of_isSpaced hspaced' hother
        unfold lowered at *
        omega

theorem sound_of_isSound (hsound : run.isSound = true) (h : run.lower? n = some m) :
    m ≠ 0x130 ∧ m.isValidChar ∧ (0x80 ≤ m ∨ 0x61 ≤ m ∧ m ≤ 0x7a) := by
  obtain ⟨hlow, hhigh⟩ := lowered_bounds h
  simp only [isSound, Bool.or_eq_true, Bool.and_eq_true, Nat.blt_eq, Nat.ble_eq] at hsound
  obtain ⟨⟨hdotted, hscalar⟩, hascii⟩ := hsound
  unfold Nat.isValidChar
  refine ⟨?_, ?_, ?_⟩
  · rintro rfl
    omega
  · omega
  · omega

end CaseRun

theorem caseRuns_avoid :
    (caseRuns.all fun run => run.isSound && caseRuns.all run.avoids) = true := by decide +kernel

/-! ## Single characters -/

/-- Whether `c` stands for itself in lower case, wherever it stands. -/
def IsLowered (c : Char) : Prop := lowerChar c = c ∧ c ≠ 'İ'

instance (c : Char) : Decidable (IsLowered c) := inferInstanceAs (Decidable (_ ∧ _))

theorem isLowered_lowerChar_ascii : ∀ n < 0x80, IsLowered (lowerChar (Char.ofNat n)) := by
  decide +kernel

theorem isLowered_small : ∀ n < 0x80, 0x61 ≤ n → n ≤ 0x7a → IsLowered (Char.ofNat n) := by
  decide +kernel

/-- The lower-case forms that the table gives stand for themselves. -/
theorem isLowered_of_caseRuns {n m : Nat} (h : caseRuns.findSome? (·.lower? n) = some m) :
    IsLowered (Char.ofNat m) := by
  obtain ⟨run, hrun, hlower⟩ := List.exists_of_findSome?_eq_some h
  obtain ⟨hsound, havoids⟩ := Bool.and_eq_true_iff.mp (List.all_eq_true.mp caseRuns_avoid run hrun)
  obtain ⟨hdotted, hvalid, hascii⟩ := CaseRun.sound_of_isSound hsound hlower
  have hcode : (Char.ofNat m).toNat = m := by
    rw [Char.ofNat, dif_pos hvalid]
    rfl
  rcases Nat.lt_or_ge m 0x80 with hsmall | hbeyond
  · exact isLowered_small m hsmall (by omega) (by omega)
  · have hnone : caseRuns.findSome? (·.lower? m) = none := by
      rw [List.findSome?_eq_none_iff]
      intro other hother
      exact CaseRun.lower?_eq_none_of_avoids hsound (List.all_eq_true.mp havoids other hother)
        hlower
    refine ⟨?_, ?_⟩
    · rw [lowerChar, hcode, if_neg (by omega), hnone]
    · intro heq
      exact hdotted (hcode ▸ congrArg Char.toNat heq)

/-- The lower-case form of a character stands for itself. -/
theorem isLowered_lowerChar {c : Char} (h : c ≠ 'İ') : IsLowered (lowerChar c) := by
  by_cases hascii : c.toNat < 0x80
  · have hchar : Char.ofNat c.toNat = c := Char.ofNat_toNat c
    exact hchar ▸ isLowered_lowerChar_ascii c.toNat hascii
  · cases hfound : caseRuns.findSome? (·.lower? c.toNat) with
    | some m =>
        have hlower : lowerChar c = Char.ofNat m := by simp [lowerChar, hascii, hfound]
        rw [hlower]
        exact isLowered_of_caseRuns hfound
    | none =>
        have hlower : lowerChar c = c := by simp [lowerChar, hascii, hfound]
        rw [hlower]
        exact ⟨hlower, h⟩

theorem lowerBetween_of_isLowered {c : Char} (h : IsLowered c) (before after : List Char) :
    lowerBetween before c after = [c] := by
  have hsigma : c ≠ 'Σ' := by
    rintro rfl
    revert h
    decide +kernel
  rw [lowerBetween, if_neg hsigma, if_neg h.2, h.1]

theorem isLowered_sigmaForm (before after : List Char) : IsLowered (sigmaForm before after) := by
  unfold sigmaForm
  split
  · decide +kernel
  · decide +kernel

theorem isLowered_of_mem_lowerBetween {before after : List Char} {c d : Char}
    (h : d ∈ lowerBetween before c after) : IsLowered d := by
  unfold lowerBetween at h
  split at h
  · rw [List.mem_singleton] at h
    exact h ▸ isLowered_sigmaForm before after
  · split at h
    · rcases List.mem_cons.mp h with rfl | h
      · decide +kernel
      · rw [List.mem_singleton] at h
        subst h
        decide +kernel
    · rename_i hdotted
      rw [List.mem_singleton] at h
      exact h ▸ isLowered_lowerChar hdotted

/-! ## Texts -/

theorem lowerAfter_eq_self {s : List Char} (h : ∀ c ∈ s, IsLowered c) (before : List Char) :
    lowerAfter before s = s := by
  induction s generalizing before with
  | nil => rfl
  | cons c s ih =>
      obtain ⟨hc, hs⟩ := List.forall_mem_cons.mp h
      rw [lowerAfter, lowerBetween_of_isLowered hc, ih hs, List.singleton_append]

theorem isLowered_of_mem_lowerAfter {before s : List Char} {c : Char}
    (h : c ∈ lowerAfter before s) : IsLowered c := by
  induction s generalizing before with
  | nil => cases h
  | cons d s ih =>
      rw [lowerAfter] at h
      rcases List.mem_append.mp h with hfirst | hrest
      · exact isLowered_of_mem_lowerBetween hfirst
      · exact ih hrest

/-- A text that is lowered twice is lowered once. -/
theorem lower_lower (s : List Char) : lower (lower s) = lower s :=
  lowerAfter_eq_self (fun _ h => isLowered_of_mem_lowerAfter h) []

end DocIndex.Text
