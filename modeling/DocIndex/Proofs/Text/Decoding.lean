import DocIndex.Proofs.Text.Encoding

/-! # Where decoding fails

Bytes are decoded up to the first place where no character begins, and it is this place that a
failed decoding names.
-/

namespace DocIndex.Text.Utf8

/-! ## The bytes of a character -/

theorem toNat_val_ofNat {n : Nat} (h : n.isValidChar) : (Char.ofNat n).val.toNat = n := by
  rw [Char.ofNat, dif_pos h]
  rfl

/-- The byte of which `n` is the value. -/
theorem ofNat_eq_of_toNat {n : Nat} {b : UInt8} (h : n = b.toNat) : UInt8.ofNat n = b := by
  rw [h, UInt8.ofNat_toNat]

theorem exists_char_one {b : UInt8} (hb : b.toNat < 0x80) :
    ∃ c, String.utf8EncodeChar c = [b] := by
  have hval : (Char.ofNat b.toNat).val.toNat = b.toNat := toNat_val_ofNat (.inl (by omega))
  refine ⟨Char.ofNat b.toNat, ?_⟩
  simp only [String.utf8EncodeChar, hval]
  rw [if_pos (by omega), UInt8.ofNat_toNat]

theorem exists_char_two {b t : UInt8} (hb : 0xc2 ≤ b.toNat ∧ b.toNat ≤ 0xdf)
    (ht : 0x80 ≤ t.toNat ∧ t.toNat ≤ 0xbf) : ∃ c, String.utf8EncodeChar c = [b, t] := by
  obtain ⟨n, hn⟩ : ∃ n, n = (b.toNat - 0xc0) * 64 + (t.toNat - 0x80) := ⟨_, rfl⟩
  have hval : (Char.ofNat n).val.toNat = n := toNat_val_ofNat (.inl (by omega))
  refine ⟨Char.ofNat n, ?_⟩
  simp only [String.utf8EncodeChar, hval]
  rw [if_neg (by omega), if_pos (by omega), ofNat_eq_of_toNat (b := b) (by omega),
    ofNat_eq_of_toNat (b := t) (by omega)]

/-- The second of three bytes has narrower bounds after two of the first ones. -/
theorem exists_char_three {b t u : UInt8} (hb : 0xe0 ≤ b.toNat ∧ b.toNat ≤ 0xef)
    (ht : 0x80 ≤ t.toNat ∧ t.toNat ≤ 0xbf) (hu : 0x80 ≤ u.toNat ∧ u.toNat ≤ 0xbf)
    (hshort : b.toNat = 0xe0 → 0xa0 ≤ t.toNat) (hscalar : b.toNat = 0xed → t.toNat ≤ 0x9f) :
    ∃ c, String.utf8EncodeChar c = [b, t, u] := by
  obtain ⟨n, hn⟩ :
    ∃ n, n = (b.toNat - 0xe0) * 4096 + (t.toNat - 0x80) * 64 + (u.toNat - 0x80) := ⟨_, rfl⟩
  have hvalid : n.isValidChar := by
    unfold Nat.isValidChar
    omega
  refine ⟨Char.ofNat n, ?_⟩
  simp only [String.utf8EncodeChar, toNat_val_ofNat hvalid]
  rw [if_neg (by omega), if_neg (by omega), if_pos (by omega),
    ofNat_eq_of_toNat (b := b) (by omega), ofNat_eq_of_toNat (b := t) (by omega),
    ofNat_eq_of_toNat (b := u) (by omega)]

theorem exists_char_four {b t u v : UInt8} (hb : 0xf0 ≤ b.toNat ∧ b.toNat ≤ 0xf4)
    (ht : 0x80 ≤ t.toNat ∧ t.toNat ≤ 0xbf) (hu : 0x80 ≤ u.toNat ∧ u.toNat ≤ 0xbf)
    (hv : 0x80 ≤ v.toNat ∧ v.toNat ≤ 0xbf) (hshort : b.toNat = 0xf0 → 0x90 ≤ t.toNat)
    (hlast : b.toNat = 0xf4 → t.toNat ≤ 0x8f) :
    ∃ c, String.utf8EncodeChar c = [b, t, u, v] := by
  obtain ⟨n, hn⟩ : ∃ n, n = (b.toNat - 0xf0) * 262144 + (t.toNat - 0x80) * 4096 +
    (u.toNat - 0x80) * 64 + (v.toNat - 0x80) := ⟨_, rfl⟩
  have hvalid : n.isValidChar := by
    unfold Nat.isValidChar
    omega
  refine ⟨Char.ofNat n, ?_⟩
  simp only [String.utf8EncodeChar, toNat_val_ofNat hvalid]
  rw [if_neg (by omega), if_neg (by omega), if_neg (by omega),
    ofNat_eq_of_toNat (b := b) (by omega), ofNat_eq_of_toNat (b := t) (by omega),
    ofNat_eq_of_toNat (b := u) (by omega), ofNat_eq_of_toNat (b := v) (by omega)]

/-! ## Bytes that are owed -/

/-- What the first byte of a character says of the others: how many there are, the bits it holds,
and the bounds of the next one. -/
inductive Leads (b : Nat) : Pending → Prop
  | two {start : Nat} (hlow : 0xc2 ≤ b) (hhigh : b ≤ 0xdf) :
      Leads b ⟨start, 1, b - 0xc0, 0x80, 0xbf⟩
  | three {start low high : Nat} (hlow : 0xe0 ≤ b) (hhigh : b ≤ 0xef)
      (hbounds : 0x80 ≤ low ∧ high ≤ 0xbf) (hshort : b = 0xe0 → 0xa0 ≤ low)
      (hscalar : b = 0xed → high ≤ 0x9f) : Leads b ⟨start, 2, b - 0xe0, low, high⟩
  | four {start low high : Nat} (hlow : 0xf0 ≤ b) (hhigh : b ≤ 0xf4)
      (hbounds : 0x80 ≤ low ∧ high ≤ 0xbf) (hshort : b = 0xf0 → 0x90 ≤ low)
      (hlast : b = 0xf4 → high ≤ 0x8f) : Leads b ⟨start, 3, b - 0xf0, low, high⟩

theorem leads_of_lead? {i b : Nat} {p : Pending} (h : lead? i b = some p) :
    Leads b p ∧ p.start = i := by
  -- one case for each row of the table, the bounds of the next byte being its own
  unfold lead? at h
  split at h
  · rename_i hb
    cases h
    exact ⟨.two hb.1 hb.2, rfl⟩
  split at h
  · rename_i hb
    cases h
    subst hb
    exact ⟨.three (by omega) (by omega) (by omega) (by omega) (by omega), rfl⟩
  split at h
  · rename_i hb
    cases h
    subst hb
    exact ⟨.three (by omega) (by omega) (by omega) (by omega) (by omega), rfl⟩
  split at h
  · rename_i hb
    cases h
    exact ⟨.three (by omega) hb.2 (by omega) (by omega) (by omega), rfl⟩
  split at h
  · rename_i hb
    cases h
    subst hb
    exact ⟨.four (by omega) (by omega) (by omega) (by omega) (by omega), rfl⟩
  split at h
  · rename_i hb
    cases h
    exact ⟨.four (by omega) (by omega) (by omega) (by omega) (by omega), rfl⟩
  split at h
  · rename_i hb
    cases h
    subst hb
    exact ⟨.four (by omega) (by omega) (by omega) (by omega) (by omega), rfl⟩
  · cases h

/-- The scan comes upon a fault that begins at `start`. -/
def FaultyAt (start : Nat) (items : List Item) : Prop := ∃ rest, items = .fault start :: rest

/-- A byte that is owed is there, or there is a fault where the character begins. If more are owed
the scan goes on to the next one. -/
theorem faultyAt_or_owed (i : Nat) (p : Pending) (bytes : List UInt8) :
    FaultyAt p.start (scanFrom i (some p) bytes) ∨
      ∃ b rest, bytes = b :: rest ∧ p.low ≤ b.toNat ∧ b.toNat ≤ p.high ∧
        (1 < p.owed → scanFrom i (some p) bytes = scanFrom (i + 1)
          (some ⟨p.start, p.owed - 1, p.bits * 64 + (b.toNat - 0x80), 0x80, 0xbf⟩) rest) := by
  cases bytes with
  | nil => exact .inl ⟨[], rfl⟩
  | cons b rest =>
      by_cases hbounds : p.low ≤ b.toNat ∧ b.toNat ≤ p.high
      · refine .inr ⟨b, rest, rfl, hbounds.1, hbounds.2, fun howed => ?_⟩
        have hmore : ¬p.owed ≤ 1 := by omega
        simp [scanFrom_cons, step, hbounds, hmore]
      · refine .inl ⟨(opening i b.toNat).1 ++ scanFrom (i + 1) (opening i b.toNat).2 rest, ?_⟩
        rw [scanFrom_cons, step, if_neg hbounds]
        rfl

/-- Where no character begins there is a fault. -/
theorem faultyAt_of_no_char {bytes : List UInt8} (hne : bytes ≠ [])
    (h : ∀ c, ¬String.utf8EncodeChar c <+: bytes) (i : Nat) :
    FaultyAt i (scanFrom i none bytes) := by
  have hnone : ∀ {s rest}, (∃ c, String.utf8EncodeChar c = s) → bytes ≠ s ++ rest := by
    rintro s rest ⟨c, rfl⟩ rfl
    exact h c (List.prefix_append _ _)
  obtain ⟨b, rest, rfl⟩ := List.exists_cons_of_ne_nil hne
  by_cases hone : b.toNat < 0x80
  · exact absurd rfl (hnone (exists_char_one hone))
  cases hlead : lead? i b.toNat with
  | none =>
      refine ⟨scanFrom (i + 1) none rest, ?_⟩
      simp [scanFrom_cons, step, opening, hone, hlead]
  | some p =>
      have hscan : scanFrom i none (b :: rest) = scanFrom (i + 1) (some p) rest := by
        simp [scanFrom_cons, step, opening, hone, hlead]
      obtain ⟨hleads, rfl⟩ := leads_of_lead? hlead
      -- if all the bytes are there that the first one asks for, they are those of a character
      rw [hscan]
      rcases faultyAt_or_owed (p.start + 1) p rest with hfault | ⟨t, rest, rfl, htl, hth, hnext⟩
      · exact hfault
      cases hleads with
      | two hlow hhigh => exact absurd rfl (hnone (exists_char_two ⟨hlow, hhigh⟩ ⟨htl, hth⟩))
      | three hlow hhigh hbounds hshort hscalar =>
          rw [hnext Nat.one_lt_two]
          rcases faultyAt_or_owed _ _ rest with hfault | ⟨u, rest, rfl, hul, huh, -⟩
          · exact hfault
          dsimp only at htl hth
          exact absurd rfl (hnone (exists_char_three ⟨hlow, hhigh⟩ ⟨by omega, by omega⟩ ⟨hul, huh⟩
            (by omega) (by omega)))
      | four hlow hhigh hbounds hshort hlast =>
          rw [hnext (Nat.lt_succ_of_lt Nat.one_lt_two)]
          rcases faultyAt_or_owed _ _ rest with hfault | ⟨u, rest, rfl, hul, huh, hnext'⟩
          · exact hfault
          rw [hnext' Nat.one_lt_two]
          rcases faultyAt_or_owed _ _ rest with hfault | ⟨v, rest, rfl, hvl, hvh, -⟩
          · exact hfault
          dsimp only at htl hth
          exact absurd rfl (hnone (exists_char_four ⟨hlow, hhigh⟩ ⟨by omega, by omega⟩ ⟨hul, huh⟩
            ⟨hvl, hvh⟩ (by omega) (by omega)))

/-! ## Where decoding fails -/

/-- Bytes are those of characters up to a place where no character begins, if there is one. -/
theorem exists_decodable (bytes : List UInt8) :
    ∃ s rest, bytes = encode s ++ rest ∧ ∀ c, ¬String.utf8EncodeChar c <+: rest := by
  induction hlength : bytes.length using Nat.strongRecOn generalizing bytes with
  | ind n ih =>
      by_cases hchar : ∃ c, String.utf8EncodeChar c <+: bytes
      · obtain ⟨c, more, rfl⟩ := hchar
        have hpos : 0 < (String.utf8EncodeChar c).length :=
          List.length_pos_iff.mpr String.utf8EncodeChar_ne_nil
        rw [List.length_append] at hlength
        obtain ⟨s, rest, hmore, hnone⟩ := ih more.length (by omega) more rfl
        refine ⟨c :: s, rest, ?_, hnone⟩
        rw [hmore, ← List.append_assoc]
        rfl
      · exact ⟨[], bytes, rfl, not_exists.mp hchar⟩

/-- Decoding fails exactly where the bytes of characters end and no character begins. -/
theorem decode_eq_error_iff {bytes : List UInt8} {position : Nat} :
    decode bytes = .error position ↔
      ∃ s rest, bytes = encode s ++ rest ∧ rest ≠ [] ∧
        (∀ c, ¬String.utf8EncodeChar c <+: rest) ∧ position = (encode s).length := by
  have hfails : ∀ s rest, rest ≠ [] → (∀ c, ¬String.utf8EncodeChar c <+: rest) →
      decode (encode s ++ rest) = .error (encode s).length := by
    intro s rest hne hnone
    obtain ⟨items, hitems⟩ := faultyAt_of_no_char hne hnone (0 + (encode s).length)
    rw [decode, scan, scanFrom_encode_append, hitems, strict_append, Nat.zero_add]
    rfl
  constructor
  · intro h
    obtain ⟨s, rest, rfl, hnone⟩ := exists_decodable bytes
    by_cases hne : rest = []
    · rw [hne, List.append_nil, decode_encode] at h
      cases h
    · rw [hfails s rest hne hnone] at h
      exact ⟨s, rest, rfl, hne, hnone, (Except.error.inj h).symm⟩
  · rintro ⟨s, rest, rfl, hne, hnone, rfl⟩
    exact hfails s rest hne hnone

end DocIndex.Text.Utf8
