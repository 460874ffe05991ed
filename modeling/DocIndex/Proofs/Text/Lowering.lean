import DocIndex.Text.Lowercase

/-! # Lower case of beginnings

The lower-case form of a text begins with that of any beginning of the text, with one exception: a
capital sigma takes its final form if the beginning ends with the word so far, and the other form
if the word goes on.
-/

namespace DocIndex.Text

variable {before start rest : List Char}

/-! ## Letters with case -/

/-- What follows a text counts only if all of the text is passed over. -/
theorem meetsCased_append (s t : List Char) :
    meetsCased (s ++ t) = if s.all isCaseIgnorable then meetsCased t else meetsCased s := by
  induction s with
  | nil => rfl
  | cons c s ih =>
      cases hc : isCaseIgnorable c with
      | true => simpa [meetsCased, hc] using ih
      | false => simp [meetsCased, hc]

theorem meetsCased_of_all {s : List Char} (h : s.all isCaseIgnorable = true) :
    meetsCased s = false := by
  have hmeets := meetsCased_append s []
  rw [List.append_nil, if_pos h] at hmeets
  exact hmeets

theorem meetsCased_sigma (s : List Char) : meetsCased ('Σ' :: s) = true := by
  have hignorable : isCaseIgnorable 'Σ' = false := by decide +kernel
  have hcased : isCased 'Σ' = true := by decide +kernel
  simp [meetsCased, hignorable, hcased]

/-! ## Words that are cut -/

/-- Whether a capital sigma in `start` ends a word, `before` being what precedes it nearest first,
but no longer does when `rest` follows. -/
def CutsWord (before start rest : List Char) : Prop :=
  ∃ s marks, start = s ++ 'Σ' :: marks ∧ meetsCased (s.reverse ++ before) = true ∧
    marks.all isCaseIgnorable = true ∧ meetsCased rest = true

theorem CutsWord.cons {c : Char} (h : CutsWord (c :: before) start rest) :
    CutsWord before (c :: start) rest := by
  obtain ⟨s, marks, rfl, hbefore, hmarks, hrest⟩ := h
  exact ⟨c :: s, marks, rfl, by simpa using hbefore, hmarks, hrest⟩

/-- A character is lowered as if nothing followed `after`, unless it is a sigma that ends a word. -/
theorem lowerBetween_append {c : Char} {after : List Char}
    (h : ¬CutsWord before (c :: after) rest) :
    lowerBetween before c (after ++ rest) = lowerBetween before c after := by
  by_cases hc : c = 'Σ'
  · subst hc
    have hsame : sigmaForm before (after ++ rest) = sigmaForm before after := by
      rw [sigmaForm, sigmaForm, meetsCased_append]
      split
      · rename_i hmarks
        rw [meetsCased_of_all hmarks]
        cases hbefore : meetsCased before with
        | false => rfl
        | true =>
            have hrest : meetsCased rest = false := by
              rw [← Bool.not_eq_true]
              exact fun hrest => h ⟨[], after, rfl, hbefore, hmarks, hrest⟩
            rw [hrest]
      · rfl
    simp [lowerBetween, hsame]
  · simp [lowerBetween, hc]

theorem lowerAfter_append (h : ¬CutsWord before start rest) :
    lowerAfter before (start ++ rest) =
      lowerAfter before start ++ lowerAfter (start.reverse ++ before) rest := by
  induction start generalizing before with
  | nil => rfl
  | cons c start ih =>
      rw [List.cons_append, lowerAfter, lowerAfter, lowerBetween_append h,
        ih fun hcuts => h hcuts.cons]
      simp

/-- How a text is lowered depends on what follows only in whether that meets a letter. -/
theorem exists_lowerAfter_append (before s : List Char) {t u : List Char}
    (h : meetsCased t = meetsCased u) :
    ∃ lowered, lowerAfter before (s ++ t) = lowered ++ lowerAfter (s.reverse ++ before) t ∧
      lowerAfter before (s ++ u) = lowered ++ lowerAfter (s.reverse ++ before) u := by
  induction s generalizing before with
  | nil => exact ⟨[], rfl, rfl⟩
  | cons c s ih =>
      obtain ⟨lowered, ht, hu⟩ := ih (c :: before)
      have hsame : lowerBetween before c (s ++ u) = lowerBetween before c (s ++ t) := by
        simp [lowerBetween, sigmaForm, meetsCased_append, h]
      refine ⟨lowerBetween before c (s ++ t) ++ lowered, ?_, ?_⟩
      · simp [lowerAfter, ht]
      · simp [lowerAfter, hu, hsame]

theorem lowerAfter_sigma (before rest : List Char) :
    lowerAfter before ('Σ' :: rest) = sigmaForm before rest :: lowerAfter ('Σ' :: before) rest := by
  rw [lowerAfter, lowerBetween, if_pos rfl, List.singleton_append]

/-- A word that is cut after a sigma is lowered with the final form where the whole word has the
other one. -/
theorem CutsWord.exists_lowerAfter (h : CutsWord before start rest) :
    ∃ lowered tail others, lowerAfter before start = lowered ++ 'ς' :: tail ∧
      lowerAfter before (start ++ rest) = lowered ++ 'σ' :: others := by
  obtain ⟨s, marks, rfl, hbefore, hmarks, hrest⟩ := h
  have hfinal : sigmaForm (s.reverse ++ before) marks = 'ς' := by
    simp [sigmaForm, hbefore, meetsCased_of_all hmarks]
  have hinner : sigmaForm (s.reverse ++ before) (marks ++ rest) = 'σ' := by
    simp [sigmaForm, meetsCased_append, hmarks, hrest]
  obtain ⟨lowered, hcut, hwhole⟩ := exists_lowerAfter_append before s
    ((meetsCased_sigma marks).trans (meetsCased_sigma (marks ++ rest)).symm)
  rw [lowerAfter_sigma, hfinal] at hcut
  rw [lowerAfter_sigma, hinner] at hwhole
  exact ⟨lowered, _, _, hcut, by rw [List.append_assoc, List.cons_append, hwhole]⟩

end DocIndex.Text
