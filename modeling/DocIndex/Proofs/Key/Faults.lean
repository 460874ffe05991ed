import DocIndex.Proofs.Key.PrefixCode
import DocIndex.Proofs.Outcomes
import DocIndex.Proofs.Text.Decoding

/-! # Where keys cannot be read

A key is cut into tokens, which are safe characters and whole escapes, and each token is a byte. The
offset of a token that is not whole is counted in the key. The offset of bytes that begin no
character is counted in bytes, so it falls short of the place in the key by two for each escape
before it.
-/

namespace DocIndex.Key

open Text

/-! ## Tokens -/

/-- The text is a run of tokens, one for each of the bytes. -/
inductive Spells : List Char → List UInt8 → Prop
  | nil : Spells [] []
  | safe {c : Char} {s : List Char} {bytes : List UInt8} (hc : isSafe c = true)
      (h : Spells s bytes) : Spells (c :: s) (c.toNat.toUInt8 :: bytes)
  | escape (b : UInt8) {s : List Char} {bytes : List UInt8} (h : Spells s bytes) :
      Spells (escapeByte b ++ s) (b :: bytes)

/-- What stands where a token is not whole: a character that is in no key, or a mark that no two
digits follow. -/
inductive Broken : List Char → Fault → Prop
  | unexpected {c : Char} {rest : List Char} (hsafe : isSafe c = false) (hmark : c ≠ '_') :
      Broken (c :: rest) (.unexpected c)
  | escape {rest : List Char} (h : ∀ b, ¬escapeByte b <+: '_' :: rest) :
      Broken ('_' :: rest) .brokenEscape

theorem hexDigit_of_lowerHexValue? {c : Char} {n : Nat} (h : lowerHexValue? c = some n) :
    n < 16 ∧ hexDigit n = c := by
  unfold lowerHexValue? hexValue? at h
  split at h
  · cases h
  · rename_i hupper
    split at h
    · rename_i hdigit
      cases h
      have hle : 48 ≤ c.toNat ∧ c.toNat ≤ 57 := hdigit
      have hzero : '0'.toNat = 48 := rfl
      have hsum : 48 + (c.toNat - 48) = c.toNat := by omega
      rw [hexDigit, hzero, if_pos (by omega), hsum, Char.ofNat_toNat]
      exact ⟨by omega, rfl⟩
    split at h
    · rename_i hletter
      cases h
      have hle : 97 ≤ c.toNat ∧ c.toNat ≤ 102 := hletter
      have ha : 'a'.toNat = 97 := rfl
      have hsum : 97 + (c.toNat - 97 + 10 - 10) = c.toNat := by omega
      rw [hexDigit, ha, if_neg (by omega), hsum, Char.ofNat_toNat]
      exact ⟨by omega, rfl⟩
    split at h
    · rename_i hcapital
      have hle : 65 ≤ c.toNat ∧ c.toNat ≤ 70 := hcapital
      have hbelow : c.toNat ≤ 90 := by omega
      exact absurd (decide_eq_true ⟨hcapital.1, hbelow⟩) hupper
    · cases h

/-- Two digits after a mark are a byte. -/
theorem escapeByte_of_digits {a b : Char} {x y : Nat} (ha : lowerHexValue? a = some x)
    (hb : lowerHexValue? b = some y) : escapeByte (x * 16 + y).toUInt8 = ['_', a, b] := by
  obtain ⟨hx, rfl⟩ := hexDigit_of_lowerHexValue? ha
  obtain ⟨hy, rfl⟩ := hexDigit_of_lowerHexValue? hb
  have hbyte : (x * 16 + y).toUInt8.toNat = x * 16 + y := UInt8.toNat_ofNat_of_lt' (by
    change x * 16 + y < 256
    omega)
  have hhigh : (x * 16 + y) / 16 = x := by omega
  have hlow : (x * 16 + y) % 16 = y := by omega
  rw [escapeByte_eq, hbyte, hhigh, hlow]

/-- A text is a run of tokens up to its end or up to a place where a token is not whole. -/
theorem exists_tokens (s : List Char) :
    ∃ good bad bytes, s = good ++ bad ∧ Spells good bytes ∧
      (bad = [] ∨ ∃ fault, Broken bad fault) := by
  -- the cases are those of reading: a safe character, an escape, and what is neither
  induction 0, s using bytesFrom.induct with
  | case1 i => exact ⟨[], [], [], rfl, .nil, .inl rfl⟩
  | case2 i c rest hsafe ih =>
      obtain ⟨good, bad, bytes, rfl, hspells, hbad⟩ := ih
      exact ⟨c :: good, bad, _, rfl, .safe hsafe hspells, hbad⟩
  | case3 i a b rest x y hb ha _ ih =>
      obtain ⟨good, bad, bytes, rfl, hspells, hbad⟩ := ih
      refine ⟨escapeByte (x * 16 + y).toUInt8 ++ good, bad, _, ?_, .escape _ hspells, hbad⟩
      rw [escapeByte_of_digits ha hb]
      rfl
  | case4 i a b rest hnone _ =>
      refine ⟨[], _, [], rfl, .nil, .inr ⟨_, .escape fun byte hbegins => ?_⟩⟩
      have hlt := byte.toNat_lt
      rw [escapeByte_eq] at hbegins
      simp only [List.cons_prefix_cons] at hbegins
      obtain ⟨-, rfl, rfl, -⟩ := hbegins
      exact hnone _ _ (lowerHexValue?_hexDigit _ (by omega)) (lowerHexValue?_hexDigit _ (by omega))
  | case5 i rest hshort _ =>
      refine ⟨[], _, [], rfl, .nil, .inr ⟨_, .escape fun byte hbegins => ?_⟩⟩
      obtain ⟨tail, htail⟩ := hbegins
      rw [escapeByte_eq] at htail
      exact hshort _ _ tail (List.cons.inj htail).2.symm
  | case6 i c rest hsafe hmark =>
      exact ⟨[], _, [], rfl, .nil, .inr ⟨_, .unexpected (by simpa using hsafe) hmark⟩⟩

theorem Broken.bytesFrom {bad : List Char} {fault : Fault} (h : Broken bad fault) (i : Nat) :
    bytesFrom i bad = .error (i, fault) := by
  cases h with
  | unexpected hsafe hmark =>
      rw [Key.bytesFrom.eq_def]
      simp [hsafe, hmark]
  | @escape rest h =>
      have hmark : isSafe '_' = false := by decide
      rcases rest with - | ⟨a, - | ⟨b, rest⟩⟩
      · simp [Key.bytesFrom, hmark]
      · simp [Key.bytesFrom, hmark]
      · cases ha : lowerHexValue? a with
        | none => simp [Key.bytesFrom, hmark, ha]
        | some x =>
            cases hb : lowerHexValue? b with
            | none => simp [Key.bytesFrom, hmark, ha, hb]
            | some y =>
                refine absurd ⟨rest, ?_⟩ (h (x * 16 + y).toUInt8)
                rw [escapeByte_of_digits ha hb]
                rfl

theorem Spells.bytesFrom {s : List Char} {bytes : List UInt8} (h : Spells s bytes) (i : Nat)
    (rest : List Char) :
    bytesFrom i (s ++ rest) = (bytesFrom (i + s.length) rest).map (bytes ++ ·) := by
  induction h generalizing i with
  | nil => exact (congrFun Except.map_id _).symm
  | safe hc _ ih =>
      rw [List.cons_append, bytesFrom_of_isSafe hc, ih, List.length_cons, Nat.add_assoc,
        Nat.add_comm 1]
      cases Key.bytesFrom _ rest <;> rfl
  | escape b _ ih =>
      have hlength : (escapeByte b).length = 3 := by rw [escapeByte_eq]; rfl
      rw [List.append_assoc, bytesFrom_escapeByte, ih, List.length_append, hlength, Nat.add_assoc]
      cases Key.bytesFrom _ rest <;> rfl

theorem Spells.bytesFrom_eq {s : List Char} {bytes : List UInt8} (h : Spells s bytes) (i : Nat) :
    Key.bytesFrom i s = .ok bytes := by
  have hread := h.bytesFrom i []
  rw [List.append_nil] at hread
  rw [hread]
  simp [Key.bytesFrom, Except.map]

theorem bytesFrom_eq_ok_iff {i : Nat} {s : List Char} {bytes : List UInt8} :
    bytesFrom i s = .ok bytes ↔ Spells s bytes := by
  refine ⟨fun h => ?_, fun h => h.bytesFrom_eq i⟩
  obtain ⟨good, bad, spelt, rfl, hspells, rfl | ⟨fault, hbroken⟩⟩ := exists_tokens s
  · rw [List.append_nil] at h ⊢
    rw [hspells.bytesFrom_eq] at h
    cases h
    exact hspells
  · rw [hspells.bytesFrom, hbroken.bytesFrom] at h
    cases h

/-- Reading fails at the first token that is not whole, and its place is counted in the text. -/
theorem bytesFrom_eq_error_iff {i position : Nat} {s : List Char} {fault : Fault} :
    bytesFrom i s = .error (position, fault) ↔
      ∃ good bad bytes, s = good ++ bad ∧ Spells good bytes ∧ Broken bad fault ∧
        position = i + good.length := by
  constructor
  · intro h
    obtain ⟨good, bad, bytes, rfl, hspells, rfl | ⟨fault', hbroken⟩⟩ := exists_tokens s
    · rw [List.append_nil, hspells.bytesFrom_eq] at h
      cases h
    · rw [hspells.bytesFrom, hbroken.bytesFrom] at h
      cases h
      exact ⟨good, bad, bytes, rfl, hspells, hbroken, rfl⟩
  · rintro ⟨good, bad, bytes, rfl, hspells, hbroken, rfl⟩
    rw [hspells.bytesFrom, hbroken.bytesFrom]
    rfl

theorem Spells.unique {s : List Char} {u v : List UInt8} (hu : Spells s u) (hv : Spells s v) :
    u = v :=
  Except.ok.inj ((hu.bytesFrom_eq 0).symm.trans (hv.bytesFrom_eq 0))

/-- What follows some tokens is read as it is by itself. -/
theorem Spells.drop {token more : List Char} {u v : List UInt8} (hu : Spells token u)
    (hv : Spells (token ++ more) v) : ∃ w, v = u ++ w ∧ Spells more w := by
  have hread := hv.bytesFrom_eq 0
  rw [hu.bytesFrom] at hread
  cases hmore : Key.bytesFrom (0 + token.length) more with
  | error fault =>
      rw [hmore] at hread
      cases hread
  | ok w =>
      rw [hmore] at hread
      cases hread
      exact ⟨w, rfl, bytesFrom_eq_ok_iff.mp hmore⟩

theorem Spells.split {s : List Char} {u v : List UInt8} (h : Spells s (u ++ v)) :
    ∃ token more, s = token ++ more ∧ Spells token u ∧ Spells more v := by
  induction u generalizing s with
  | nil => exact ⟨[], s, rfl, .nil, h⟩
  | cons b u ih =>
      cases h with
      | safe hc h =>
          obtain ⟨token, more, rfl, htoken, hmore⟩ := ih h
          exact ⟨_ :: token, more, rfl, .safe hc htoken, hmore⟩
      | escape b h =>
          obtain ⟨token, more, rfl, htoken, hmore⟩ := ih h
          exact ⟨escapeByte b ++ token, more, (List.append_assoc _ _ _).symm, .escape b htoken,
            hmore⟩

/-- An escape is three characters for one byte. -/
theorem Spells.length_eq {s : List Char} {bytes : List UInt8} (h : Spells s bytes) :
    s.length = bytes.length + 2 * s.count '_' := by
  induction h with
  | nil => rfl
  | safe hc _ ih =>
      rw [List.count_cons_of_ne (ne_mark_of_isSafe hc), List.length_cons, List.length_cons]
      omega
  | escape b _ ih =>
      have hhigh := ne_mark_of_isSafe (isSafe_hexDigit (b.toNat / 16) (by
        have hlt := b.toNat_lt
        omega))
      have hlow := ne_mark_of_isSafe (isSafe_hexDigit (b.toNat % 16) (by omega))
      have hcount : (escapeByte b).count '_' = 1 := by
        rw [escapeByte_eq, List.count_cons_self, List.count_cons_of_ne hhigh,
          List.count_cons_of_ne hlow, List.count_nil]
      have hlength : (escapeByte b).length = 3 := by rw [escapeByte_eq]; rfl
      rw [List.length_append, List.count_append, hcount, hlength, List.length_cons]
      omega

/-! ## The first fault -/

/-- Some tokens at the start of the text are the bytes of a character. -/
def BeginsCharacter (s : List Char) : Prop :=
  ∃ c token, Spells token (String.utf8EncodeChar c) ∧ token <+: s

/-- The offset into the key is that of the first tokens that cannot be read: the tokens before it
are the bytes of a text, and those at it are not the bytes of a character. -/
def PointsAtFault (key : String) (position : Nat) : Prop :=
  ∃ good bad s, key.toList = good ++ bad ∧ good.length = position ∧
    Spells good (Utf8.encode s) ∧ bad ≠ [] ∧ ¬BeginsCharacter bad

theorem Broken.not_beginsCharacter {bad : List Char} {fault : Fault} (h : Broken bad fault) :
    ¬BeginsCharacter bad := by
  rintro ⟨c, token, htoken, hbegins⟩
  generalize hbytes : String.utf8EncodeChar c = bytes at htoken
  cases htoken with
  | nil => exact String.utf8EncodeChar_ne_nil hbytes
  | safe hsafe _ =>
      cases h with
      | unexpected hnot _ =>
          obtain ⟨rfl, -⟩ := List.cons_prefix_cons.mp hbegins
          rw [hsafe] at hnot
          cases hnot
      | escape _ => exact ne_mark_of_isSafe hsafe (List.cons_prefix_cons.mp hbegins).1
  | escape b _ =>
      have hescape := (List.prefix_append _ _).trans hbegins
      cases h with
      | unexpected _ hmark =>
          rw [escapeByte_eq] at hescape
          exact hmark (List.cons_prefix_cons.mp hescape).1.symm
      | escape hnone => exact hnone b hescape

theorem not_beginsCharacter_of_bytes {bad : List Char} {bytes : List UInt8}
    (h : Spells bad bytes) (hnone : ∀ c, ¬String.utf8EncodeChar c <+: bytes) :
    ¬BeginsCharacter bad := by
  rintro ⟨c, token, htoken, more, rfl⟩
  obtain ⟨w, rfl, -⟩ := htoken.drop h
  exact hnone c (List.prefix_append _ _)

/-- Where more of a text follows its beginning, a character begins. -/
theorem beginsCharacter_of_more {good more : List Char} {s t : List Char}
    (hgood : Spells good (Utf8.encode s)) (hall : Spells (good ++ more) (Utf8.encode t))
    (hne : more ≠ []) : BeginsCharacter more := by
  obtain ⟨bytes, hbytes, hmore⟩ := hgood.drop hall
  have hsome : ∃ c, String.utf8EncodeChar c <+: bytes := by
    refine Classical.byContradiction fun hnone => ?_
    have hrest : bytes ≠ [] := by
      rintro rfl
      cases hmore
      exact hne rfl
    have hfails := Utf8.decode_eq_error_iff.mpr ⟨s, bytes, hbytes, hrest, not_exists.mp hnone, rfl⟩
    rw [Utf8.decode_encode] at hfails
    cases hfails
  obtain ⟨c, rest, rfl⟩ := hsome
  obtain ⟨token, others, rfl, htoken, -⟩ := hmore.split
  exact ⟨c, token, htoken, List.prefix_append _ _⟩

/-- There is only one such offset. -/
theorem PointsAtFault.unique {key : String} {p q : Nat} (hp : PointsAtFault key p)
    (hq : PointsAtFault key q) : p = q := by
  -- up to the later place all is text, so a character would begin at the earlier one
  have hle : ∀ {p q}, PointsAtFault key p → PointsAtFault key q → ¬p < q := by
    rintro _ _ ⟨good, bad, s, hkey, rfl, hgood, -, hnone⟩
      ⟨good', bad', s', hkey', rfl, hgood', -⟩ hlt
    have hbegins : good <+: good' :=
      List.prefix_of_prefix_length_le ⟨bad, hkey.symm⟩ ⟨bad', hkey'.symm⟩ (Nat.le_of_lt hlt)
    obtain ⟨more, rfl⟩ := hbegins
    have hne : more ≠ [] := by
      rintro rfl
      simp at hlt
    rw [hkey', List.append_assoc] at hkey
    obtain ⟨c, token, htoken, hprefix⟩ := beginsCharacter_of_more hgood hgood' hne
    refine hnone ⟨c, token, htoken, ?_⟩
    rw [← List.append_cancel_left hkey]
    exact hprefix.trans (List.prefix_append _ _)
  have hless := hle hp hq
  have hmore := hle hq hp
  omega

/-! ## Reading keys -/

/-- Where a key that cannot be read is said to have its fault. -/
structure Located (key : String) (e : DecodeError) : Prop where
  names : e.key = key
  /-- The first token that is not whole is at the offset. It is the first fault of the key unless
  the bytes before it are not those of a text. -/
  token : e.fault ≠ .notUtf8 → ∃ good bad bytes, key.toList = good ++ bad ∧
    good.length = e.position ∧ Spells good bytes ∧ Broken bad e.fault ∧
    (PointsAtFault key e.position ↔ ∃ s, bytes = Utf8.encode s)
  /-- If all tokens are whole, the offset falls short of the first fault by two for each escape
  before it, so it is right only if there are none. -/
  bytes : e.fault = .notUtf8 → ∃ good bad s more, key.toList = good ++ bad ∧
    Spells good (Utf8.encode s) ∧ Spells bad more ∧ PointsAtFault key good.length ∧
    good.length = e.position + 2 * good.count '_' ∧
    (PointsAtFault key e.position ↔ '_' ∉ good)

theorem decode_eq_error {key : String} {e : DecodeError} (h : decode key = .error e) :
    (∃ position fault, bytesFrom 0 key.toList = .error (position, fault) ∧
        e = ⟨key, position, fault⟩) ∨
      (∃ bytes position, Spells key.toList bytes ∧ Utf8.decode bytes = .error position ∧
        e = ⟨key, position, .notUtf8⟩) ∨ e = ⟨key, 0, .notCanonical⟩ := by
  unfold decode at h
  split at h
  · rename_i position fault hbytes
    cases h
    exact .inl ⟨position, fault, hbytes, rfl⟩
  · rename_i bytes hbytes
    split at h
    · rename_i position hposition
      cases h
      exact .inr (.inl ⟨bytes, position, bytesFrom_eq_ok_iff.mp hbytes, hposition, rfl⟩)
    · dsimp only at h
      split at h
      · cases h
      · cases h
        exact .inr (.inr rfl)

theorem located_of_broken {key : String} {position : Nat} {fault : Fault}
    (h : bytesFrom 0 key.toList = .error (position, fault)) :
    Located key ⟨key, position, fault⟩ := by
  obtain ⟨good, bad, bytes, hkey, hgood, hbroken, hposition⟩ := bytesFrom_eq_error_iff.mp h
  rw [Nat.zero_add] at hposition
  refine ⟨rfl, fun _ => ⟨good, bad, bytes, hkey, hposition.symm, hgood, hbroken, ?_⟩, ?_⟩
  · constructor
    · rintro ⟨good', bad', s, hkey', hlength, hgood', -⟩
      obtain ⟨rfl, -⟩ :=
        List.append_inj (hkey.symm.trans hkey') (hposition.symm.trans hlength.symm)
      exact ⟨s, hgood.unique hgood'⟩
    · rintro ⟨s, rfl⟩
      refine ⟨good, bad, s, hkey, hposition.symm, hgood, ?_, hbroken.not_beginsCharacter⟩
      rintro rfl
      cases hbroken
  · rintro rfl
    cases hbroken

theorem located_of_bytes {key : String} {bytes : List UInt8} {position : Nat}
    (hspells : Spells key.toList bytes) (hdecode : Utf8.decode bytes = .error position) :
    Located key ⟨key, position, .notUtf8⟩ := by
  obtain ⟨s, rest, rfl, hne, hnone, rfl⟩ := Utf8.decode_eq_error_iff.mp hdecode
  obtain ⟨good, bad, hkey, hgood, hbad⟩ := hspells.split
  have hpoints : PointsAtFault key good.length := by
    refine ⟨good, bad, s, hkey, rfl, hgood, ?_, not_beginsCharacter_of_bytes hbad hnone⟩
    rintro rfl
    cases hbad
    exact hne rfl
  have hlength := hgood.length_eq
  refine ⟨rfl, fun hnot => absurd rfl hnot,
    fun _ => ⟨good, bad, s, rest, hkey, hgood, hbad, hpoints, hlength, ?_⟩⟩
  rw [← List.count_eq_zero]
  constructor
  · -- there is only one first fault, so the two offsets are the same
    intro hsame
    have hequal := hpoints.unique hsame
    dsimp only at hequal
    omega
  · intro hcount
    rw [hcount, Nat.mul_zero, Nat.add_zero] at hlength
    exact hlength ▸ hpoints

/-- A key with a token that is not whole, or with bytes that begin no character, is said to have its
fault where it is, but for the escapes before bytes. -/
theorem decode_located {key : String} {e : DecodeError} (h : decode key = .error e)
    (hfault : e.fault ≠ .notCanonical) : Located key e := by
  rcases decode_eq_error h with ⟨position, fault, hread, rfl⟩ |
    ⟨bytes, position, hspells, hdecode, rfl⟩ | rfl
  · exact located_of_broken hread
  · exact located_of_bytes hspells hdecode
  · exact absurd rfl hfault

theorem decode_located_truncated :
    decode "a_c3" = .error ⟨"a_c3", 1, .notUtf8⟩ ∧
      Located "a_c3" ⟨"a_c3", 1, .notUtf8⟩ := by
  have h : decode "a_c3" = .error ⟨"a_c3", 1, .notUtf8⟩ :=
    failure?_eq_some_iff.mp (by decide +kernel)
  exact ⟨h, decode_located h Fault.noConfusion⟩

/-- After an escape the offset of a byte is not that of its token, not even that of a token. -/
theorem offset_after_escape :
    decode "_5f_ff" = .error ⟨"_5f_ff", 1, .notUtf8⟩ ∧ PointsAtFault "_5f_ff" 3 ∧
      ¬PointsAtFault "_5f_ff" 1 := by
  have hnone : ∀ c, ¬String.utf8EncodeChar c <+: [0xff] := by
    have hfails : Utf8.decode [0xff] = .error 0 := failure?_eq_some_iff.mp (by decide)
    obtain ⟨s, rest, hbytes, -, hnone, hlength⟩ := Utf8.decode_eq_error_iff.mp hfails
    rw [List.length_eq_zero_iff.mp hlength.symm, List.nil_append] at hbytes
    exact hbytes ▸ hnone
  have hpoints : PointsAtFault "_5f_ff" 3 :=
    ⟨escapeByte 0x5f, escapeByte 0xff ++ [], ['_'], rfl, rfl, .escape 0x5f .nil,
      List.cons_ne_nil _ _, not_beginsCharacter_of_bytes (.escape 0xff .nil) hnone⟩
  refine ⟨failure?_eq_some_iff.mp (by decide +kernel), hpoints, fun h => ?_⟩
  cases h.unique hpoints

end DocIndex.Key
