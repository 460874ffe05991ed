import DocIndex.Key

/-! # The characters of keys

A key holds letters, digits and underscores only, and its first character depends on the first
character of the label alone.
-/

namespace DocIndex.Key

open Text

/-! ## The alphabet -/

theorem isSafe_hexDigit : ∀ n < 16, isSafe (hexDigit n) = true := by decide

theorem mem_escapeByte {b : UInt8} {c : Char} (h : c ∈ escapeByte b) :
    c = '_' ∨ isSafe c = true := by
  have hpad : escapeByte b = ['_', hexDigit (b.toNat / 16 % 16), hexDigit (b.toNat % 16)] := rfl
  rw [hpad] at h
  simp only [List.mem_cons, List.not_mem_nil, or_false] at h
  rcases h with rfl | rfl | rfl
  · exact .inl rfl
  · exact .inr (isSafe_hexDigit _ (by omega))
  · exact .inr (isSafe_hexDigit _ (by omega))

theorem mem_escapeChar {c d : Char} (h : d ∈ escapeChar c) : d = '_' ∨ isSafe d = true := by
  unfold escapeChar at h
  split at h
  · rename_i hsafe
    rw [List.mem_singleton] at h
    exact .inr (h ▸ hsafe)
  · obtain ⟨b, -, hd⟩ := List.mem_flatMap.mp h
    exact mem_escapeByte hd

theorem mem_normalize {label : String} {c : Char} (h : c ∈ (normalize label).toList) :
    c = '_' ∨ isSafe c = true := by
  rw [normalize, String.toList_ofList] at h
  obtain ⟨d, -, hc⟩ := List.mem_flatMap.mp h
  exact mem_escapeChar hc

/-! ## The first character -/

/-- The lower-case form of a first character: what follows it does not count. -/
theorem lowerBetween_nil (c : Char) (after : List Char) :
    lowerBetween [] c after = lowerBetween [] c [] := by
  unfold lowerBetween
  by_cases hsigma : c = 'Σ'
  · simp [hsigma, sigmaForm, meetsCased]
  · simp [hsigma]

theorem lowerBetween_ne_nil (before : List Char) (c : Char) (after : List Char) :
    lowerBetween before c after ≠ [] := by
  unfold lowerBetween
  split
  · simp
  · split <;> simp

theorem escapeChar_ne_nil (c : Char) : escapeChar c ≠ [] := by
  unfold escapeChar
  split
  · simp
  · unfold String.utf8EncodeChar
    grind [escapeByte]

theorem escape_append (s t : List Char) : escape (s ++ t) = escape s ++ escape t := by
  simp [escape]

/-- The key of a label begins with the key of its first character. -/
theorem toList_normalize_cons (c : Char) (rest : List Char) :
    ∃ tail, (normalize (String.ofList (c :: rest))).toList =
      (normalize c.toString).toList ++ tail := by
  refine ⟨escape (lowerAfter [c] rest), ?_⟩
  have hone : lower [c] = lowerBetween [] c [] := by simp [lower, lowerAfter]
  have hall : lower (c :: rest) = lowerBetween [] c [] ++ lowerAfter [c] rest := by
    rw [lower, lowerAfter, lowerBetween_nil]
  simp [normalize, hone, hall, escape_append]

theorem escape_ne_nil {s : List Char} (h : s ≠ []) : escape s ≠ [] := by
  cases s with
  | nil => exact absurd rfl h
  | cons c s => simp [escape, escapeChar_ne_nil]

theorem toList_normalize_ne_nil {label : String} (h : label ≠ "") :
    (normalize label).toList ≠ [] := by
  have hlabel : label.toList ≠ [] := by simpa using h
  cases hs : label.toList with
  | nil => exact absurd hs hlabel
  | cons c rest =>
      have hlower : lower (c :: rest) ≠ [] := by simp [lower, lowerAfter, lowerBetween_ne_nil]
      simpa only [normalize, hs, String.toList_ofList] using escape_ne_nil hlower

end DocIndex.Key
