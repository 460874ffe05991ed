import DocIndex.Text.Utf8

/-! # Encoded texts are read back

The scan takes the bytes of each character in one piece, whatever follows. So a text is read back
from its bytes, and the bytes of no character begin those of another.
-/

namespace DocIndex.Text.Utf8

/-! ## Single bytes -/

variable {start owed bits low high i b : Nat}

theorem scanFrom_cons (i : Nat) (pending : Option Pending) (b : UInt8) (rest : List UInt8) :
    scanFrom i pending (b :: rest) =
      (step i pending b.toNat).1 ++ scanFrom (i + 1) (step i pending b.toNat).2 rest := rfl

theorem scanFrom_lead {p : Pending} (hlead : lead? i b = some p) (hlow : 0x80 ≤ b)
    (hhigh : b < 0x100) (rest : List UInt8) :
    scanFrom i none (UInt8.ofNat b :: rest) = scanFrom (i + 1) (some p) rest := by
  have hmany : ¬b < 0x80 := by omega
  simp [scanFrom_cons, step, opening, UInt8.toNat_ofNat_of_lt' hhigh, hlead, hmany]

/-- A byte within the bounds that is not the last one owed. -/
theorem scanFrom_more (hlow : low ≤ b) (hhigh : b ≤ high) (hb : b < 0x100) (howed : 1 < owed)
    (rest : List UInt8) :
    scanFrom i (some ⟨start, owed, bits, low, high⟩) (UInt8.ofNat b :: rest) =
      scanFrom (i + 1) (some ⟨start, owed - 1, bits * 64 + (b - 0x80), 0x80, 0xbf⟩) rest := by
  have hmore : ¬owed ≤ 1 := by omega
  simp [scanFrom_cons, step, UInt8.toNat_ofNat_of_lt' hb, hlow, hhigh, hmore]

/-- The last byte that is owed completes a character. -/
theorem scanFrom_last (hlow : low ≤ b) (hhigh : b ≤ high) (hb : b < 0x100)
    (rest : List UInt8) :
    scanFrom i (some ⟨start, 1, bits, low, high⟩) (UInt8.ofNat b :: rest) =
      .char (Char.ofNat (bits * 64 + (b - 0x80))) :: scanFrom (i + 1) none rest := by
  simp [scanFrom_cons, step, UInt8.toNat_ofNat_of_lt' hb, hlow, hhigh]

/-! ## First bytes -/

theorem lead?_two {n : Nat} (hlow : 0x80 ≤ n) (hhigh : n < 0x800) (i : Nat) :
    lead? i (n / 64 % 32 + 0xc0) = some ⟨i, 1, n / 64, 0x80, 0xbf⟩ := by
  have hbits : n / 64 % 32 = n / 64 := by omega
  rw [lead?, if_pos (by omega), hbits, Nat.add_sub_cancel]

/-- The bounds of the second of three bytes hold for all code points but surrogates. -/
theorem lead?_three {n : Nat} (hlow : 0x800 ≤ n) (hhigh : n < 0x10000)
    (hscalar : ¬(0xd800 ≤ n ∧ n ≤ 0xdfff)) (i : Nat) :
    ∃ low high, lead? i (n / 4096 % 16 + 0xe0) = some ⟨i, 2, n / 4096, low, high⟩ ∧
      low ≤ n / 64 % 64 + 0x80 ∧ n / 64 % 64 + 0x80 ≤ high := by
  have hbits : n / 4096 % 16 = n / 4096 := by omega
  rw [lead?, if_neg (by omega), hbits]
  by_cases hfirst : n / 4096 = 0
  · exact ⟨0xa0, 0xbf, by simp [hfirst], by omega, by omega⟩
  · rw [if_neg (by omega)]
    by_cases hbefore : n / 4096 = 0xd
    · exact ⟨0x80, 0x9f, by simp [hbefore], by omega, by omega⟩
    · rw [if_neg (by omega), if_pos (by omega), Nat.add_sub_cancel]
      exact ⟨0x80, 0xbf, rfl, by omega, by omega⟩

/-- The bounds of the second of four bytes hold up to the last code point. -/
theorem lead?_four {n : Nat} (hlow : 0x10000 ≤ n) (hhigh : n < 0x110000) (i : Nat) :
    ∃ low high, lead? i (n / 262144 % 8 + 0xf0) = some ⟨i, 3, n / 262144, low, high⟩ ∧
      low ≤ n / 4096 % 64 + 0x80 ∧ n / 4096 % 64 + 0x80 ≤ high := by
  have hbits : n / 262144 % 8 = n / 262144 := by omega
  rw [lead?, if_neg (by omega), if_neg (by omega), if_neg (by omega), if_neg (by omega), hbits]
  by_cases hfirst : n / 262144 = 0
  · exact ⟨0x90, 0xbf, by simp [hfirst], by omega, by omega⟩
  · rw [if_neg (by omega)]
    by_cases hlast : n / 262144 = 4
    · exact ⟨0x80, 0x8f, by simp [hlast], by omega, by omega⟩
    · rw [if_pos (by omega), Nat.add_sub_cancel]
      exact ⟨0x80, 0xbf, rfl, by omega, by omega⟩

/-! ## Characters -/

theorem scanFrom_one {n : Nat} (h : n < 0x80) (i : Nat) (rest : List UInt8) :
    scanFrom i none (UInt8.ofNat n :: rest) =
      .char (Char.ofNat n) :: scanFrom (i + 1) none rest := by
  have hbyte : n < UInt8.size := Nat.lt_trans h (by decide)
  simp [scanFrom_cons, step, opening, UInt8.toNat_ofNat_of_lt' hbyte, h]

theorem scanFrom_two {n : Nat} (hlow : 0x80 ≤ n) (hhigh : n < 0x800) (i : Nat)
    (rest : List UInt8) :
    scanFrom i none (UInt8.ofNat (n / 64 % 32 + 0xc0) :: UInt8.ofNat (n % 64 + 0x80) :: rest) =
      .char (Char.ofNat n) :: scanFrom (i + 2) none rest := by
  have hbits : n / 64 * 64 + (n % 64 + 0x80 - 0x80) = n := by omega
  rw [scanFrom_lead (lead?_two hlow hhigh i) (by omega) (by omega),
    scanFrom_last (by omega) (by omega) (by omega), hbits]

theorem scanFrom_three {n : Nat} (hlow : 0x800 ≤ n) (hhigh : n < 0x10000)
    (hscalar : ¬(0xd800 ≤ n ∧ n ≤ 0xdfff)) (i : Nat) (rest : List UInt8) :
    scanFrom i none (UInt8.ofNat (n / 4096 % 16 + 0xe0) :: UInt8.ofNat (n / 64 % 64 + 0x80) ::
        UInt8.ofNat (n % 64 + 0x80) :: rest) =
      .char (Char.ofNat n) :: scanFrom (i + 3) none rest := by
  obtain ⟨low, high, hlead, hbelow, habove⟩ := lead?_three hlow hhigh hscalar i
  have hbits : (n / 4096 * 64 + (n / 64 % 64 + 0x80 - 0x80)) * 64 + (n % 64 + 0x80 - 0x80) = n := by
    omega
  rw [scanFrom_lead hlead (by omega) (by omega),
    scanFrom_more hbelow habove (by omega) (by decide),
    scanFrom_last (by omega) (by omega) (by omega), hbits]

theorem scanFrom_four {n : Nat} (hlow : 0x10000 ≤ n) (hhigh : n < 0x110000) (i : Nat)
    (rest : List UInt8) :
    scanFrom i none (UInt8.ofNat (n / 262144 % 8 + 0xf0) :: UInt8.ofNat (n / 4096 % 64 + 0x80) ::
        UInt8.ofNat (n / 64 % 64 + 0x80) :: UInt8.ofNat (n % 64 + 0x80) :: rest) =
      .char (Char.ofNat n) :: scanFrom (i + 4) none rest := by
  obtain ⟨low, high, hlead, hbelow, habove⟩ := lead?_four hlow hhigh i
  have hbits : ((n / 262144 * 64 + (n / 4096 % 64 + 0x80 - 0x80)) * 64 +
      (n / 64 % 64 + 0x80 - 0x80)) * 64 + (n % 64 + 0x80 - 0x80) = n := by omega
  rw [scanFrom_lead hlead (by omega) (by omega),
    scanFrom_more hbelow habove (by omega) (by decide),
    scanFrom_more (by omega) (by omega) (by omega) (by decide),
    scanFrom_last (by omega) (by omega) (by omega), hbits]

/-- The bytes of a character are taken in one piece. -/
theorem scanFrom_encodeChar (i : Nat) (c : Char) (rest : List UInt8) :
    scanFrom i none (String.utf8EncodeChar c ++ rest) =
      .char c :: scanFrom (i + (String.utf8EncodeChar c).length) none rest := by
  have hvalid : c.val.toNat.isValidChar := c.valid
  unfold Nat.isValidChar at hvalid
  have hchar : Char.ofNat c.val.toNat = c := Char.ofNat_toNat c
  unfold String.utf8EncodeChar
  dsimp only
  split
  · exact (scanFrom_one (by omega) i rest).trans (by rw [hchar]; rfl)
  · split
    · exact (scanFrom_two (by omega) (by omega) i rest).trans (by rw [hchar]; rfl)
    · split
      · exact (scanFrom_three (by omega) (by omega) (by omega) i rest).trans (by rw [hchar]; rfl)
      · exact (scanFrom_four (by omega) (by omega) i rest).trans (by rw [hchar]; rfl)

/-! ## Texts -/

theorem scanFrom_encode_append (i : Nat) (s : List Char) (rest : List UInt8) :
    scanFrom i none (encode s ++ rest) =
      s.map .char ++ scanFrom (i + (encode s).length) none rest := by
  induction s generalizing i with
  | nil => rfl
  | cons c s ih =>
      have hencode : encode (c :: s) = String.utf8EncodeChar c ++ encode s := List.flatMap_cons
      rw [hencode, List.append_assoc, scanFrom_encodeChar, ih, List.length_append, Nat.add_assoc]
      rfl

theorem scanFrom_encode (i : Nat) (s : List Char) :
    scanFrom i none (encode s) = s.map .char := by
  rw [← List.append_nil (encode s), scanFrom_encode_append]
  exact List.append_nil _

theorem strict_append (s : List Char) (items : List Item) :
    strict (s.map .char ++ items) = (strict items).map (s ++ ·) := by
  induction s with
  | nil => exact (congrFun Except.map_id _).symm
  | cons c s ih =>
      rw [List.map_cons, List.cons_append, strict, ih]
      cases strict items <;> rfl

theorem strict_chars (s : List Char) : strict (s.map .char) = .ok s := by
  rw [← List.append_nil (s.map Item.char), strict_append]
  exact congrArg Except.ok (List.append_nil s)

/-- A text is read back from its bytes. -/
theorem decode_encode (s : List Char) : decode (encode s) = .ok s := by
  rw [decode, scan, scanFrom_encode, strict_chars]

/-- The bytes of no character begin those of another. -/
theorem eq_of_encodeChar_isPrefix {c d : Char}
    (h : String.utf8EncodeChar c <+: String.utf8EncodeChar d) : c = d := by
  obtain ⟨more, hmore⟩ := h
  have hfirst := scanFrom_encodeChar 0 c more
  have hsecond := scanFrom_encodeChar 0 d []
  rw [List.append_nil, ← hmore, hfirst] at hsecond
  exact Item.char.inj (List.cons.inj hsecond).1

end DocIndex.Text.Utf8
