import DocIndex.Proofs.Text.Encoding
import DocIndex.Proofs.Text.Lowered
import DocIndex.Key

/-! # Keys are read back

The key of a label is read as the label in lower case, and no other text is read as a key.
-/

namespace DocIndex.Key

open Text

/-- The lower-case form of a label. -/
def lowered (label : String) : String := String.ofList (lower label.toList)

/-! ## Bytes -/

theorem lowerHexValue?_hexDigit : ∀ n < 16, lowerHexValue? (hexDigit n) = some n := by decide

theorem escapeByte_eq (b : UInt8) :
    escapeByte b = ['_', hexDigit (b.toNat / 16), hexDigit (b.toNat % 16)] := by
  have hsmall : b.toNat / 16 % 16 = b.toNat / 16 := by
    have hlt := b.toNat_lt
    omega
  rw [← hsmall]
  rfl

theorem bytesFrom_escapeByte (i : Nat) (b : UInt8) (rest : List Char) :
    bytesFrom i (escapeByte b ++ rest) = (bytesFrom (i + 3) rest).map (b :: ·) := by
  have hlt := b.toNat_lt
  have hhigh := lowerHexValue?_hexDigit (b.toNat / 16) (by omega)
  have hlow := lowerHexValue?_hexDigit (b.toNat % 16) (by omega)
  have hbyte : (b.toNat / 16 * 16 + b.toNat % 16).toUInt8 = b := by
    rw [Nat.div_add_mod']
    exact UInt8.ofNat_toNat
  have hmark : isSafe '_' = false := by decide
  simp [escapeByte_eq, bytesFrom, hmark, hhigh, hlow, hbyte]

theorem bytesFrom_escapeBytes (i : Nat) (bytes : List UInt8) (rest : List Char) :
    bytesFrom i (bytes.flatMap escapeByte ++ rest) =
      (bytesFrom (i + (bytes.flatMap escapeByte).length) rest).map (bytes ++ ·) := by
  induction bytes generalizing i with
  | nil => exact (congrFun Except.map_id (bytesFrom i rest)).symm
  | cons b bytes ih =>
      have hlength : (escapeByte b).length = 3 := by rw [escapeByte_eq]; rfl
      rw [List.flatMap_cons, List.append_assoc, bytesFrom_escapeByte, ih, List.length_append,
        hlength, Nat.add_assoc]
      cases bytesFrom (i + (3 + (bytes.flatMap escapeByte).length)) rest <;> rfl

/-! ## Characters -/

theorem toNat_lt_of_isSafe {c : Char} (h : isSafe c = true) : c.toNat < 0x80 := by
  rcases Bool.or_eq_true_iff.mp h with hdigit | hlower
  · have hlast : c.toNat ≤ 57 := of_decide_eq_true (Bool.and_eq_true_iff.mp hdigit).2
    omega
  · have hlast : c.toNat ≤ 122 := of_decide_eq_true (Bool.and_eq_true_iff.mp hlower).2
    omega

/-- A safe character is its own byte. -/
theorem encodeChar_of_isSafe {c : Char} (h : isSafe c = true) :
    String.utf8EncodeChar c = [c.toNat.toUInt8] :=
  if_pos (Nat.le_of_lt_succ (toNat_lt_of_isSafe h))

theorem bytesFrom_of_isSafe {c : Char} (h : isSafe c = true) (i : Nat) (rest : List Char) :
    bytesFrom i (c :: rest) = (bytesFrom (i + 1) rest).map (c.toNat.toUInt8 :: ·) := by
  rw [bytesFrom.eq_def]
  exact if_pos h

theorem bytesFrom_escapeChar (i : Nat) (c : Char) (rest : List Char) :
    bytesFrom i (escapeChar c ++ rest) =
      (bytesFrom (i + (escapeChar c).length) rest).map (String.utf8EncodeChar c ++ ·) := by
  unfold escapeChar
  split
  · rename_i hsafe
    rw [encodeChar_of_isSafe hsafe]
    exact bytesFrom_of_isSafe hsafe i rest
  · exact bytesFrom_escapeBytes i (String.utf8EncodeChar c) rest

theorem escape_cons (c : Char) (s : List Char) :
    escape (c :: s) = escapeChar c ++ escape s := List.flatMap_cons

/-- The bytes that a lowered text is written with are its own. -/
theorem bytesFrom_escape (i : Nat) (s : List Char) :
    bytesFrom i (escape s) = .ok (Utf8.encode s) := by
  induction s generalizing i with
  | nil => rfl
  | cons c s ih =>
      rw [escape_cons, bytesFrom_escapeChar, ih]
      rfl

/-! ## Labels -/

theorem toList_normalize (label : String) :
    (normalize label).toList = escape (lowered label).toList := by
  rw [normalize, lowered, String.toList_ofList, String.toList_ofList]

theorem normalize_lowered (label : String) : normalize (lowered label) = normalize label := by
  rw [normalize, normalize, lowered, String.toList_ofList, lower_lower]

theorem decode_normalize (label : String) : decode (normalize label) = .ok (lowered label) := by
  rw [decode, toList_normalize, bytesFrom_escape]
  dsimp only
  rw [Utf8.decode_encode]
  dsimp only
  rw [String.ofList_toList, if_pos (normalize_lowered label)]

/-- Only the key of what is read is read as it. -/
theorem normalize_of_decode {key label : String} (h : decode key = .ok label) :
    normalize label = key := by
  unfold decode at h
  split at h
  · cases h
  · split at h
    · cases h
    · dsimp only at h
      split at h
      · rename_i hkey
        cases h
        exact hkey
      · cases h

theorem isNormalized_iff {key : String} :
    isNormalized key = true ↔ ∃ label, decode key = .ok label := by
  unfold isNormalized
  cases decode key with
  | error e => simp [Except.toBool]
  | ok label => simp [Except.toBool]

/-- Labels have the same key if they are the same in lower case. -/
theorem normalize_eq_iff {label other : String} :
    normalize label = normalize other ↔ lowered label = lowered other := by
  constructor
  · intro h
    have hread := decode_normalize label
    rw [h, decode_normalize] at hread
    exact (Except.ok.inj hread).symm
  · intro h
    rw [← normalize_lowered label, h, normalize_lowered]

/-- A text is read as a key exactly if it is the key of a label. -/
structure ReadBack (key : String) : Prop where
  readable : (∃ label, decode key = .ok label) ↔ ∃ label, normalize label = key
  isNormalized : isNormalized key = true ↔ ∃ label, normalize label = key
  /-- It is read as the lower-case form of each label whose key it is. -/
  decode : ∀ label, normalize label = key → decode key = .ok (lowered label)
  /-- The labels whose key it is are those with one lower-case form. -/
  unique : ∀ label, normalize label = key →
    ∀ other, normalize other = key ↔ lowered other = lowered label

/-- The keys of labels, and no other texts, are read back, each as its labels in lower case. -/
theorem decode_inverts_normalize (key : String) : ReadBack key := by
  have hreadable : (∃ label, decode key = .ok label) ↔ ∃ label, normalize label = key := by
    constructor
    · rintro ⟨label, h⟩
      exact ⟨label, normalize_of_decode h⟩
    · rintro ⟨label, rfl⟩
      exact ⟨lowered label, decode_normalize label⟩
  refine ⟨hreadable, isNormalized_iff.trans hreadable, ?_, ?_⟩
  · rintro label rfl
    exact decode_normalize label
  · rintro label rfl other
    exact normalize_eq_iff

example : (decode (normalize "Überlauf_ΧΑΟΣ")).toOption = some "überlauf_χαος" := by decide +kernel

end DocIndex.Key
