import DocIndex.PartitionFile
import DocIndex.Proofs.Markup.Escaping

/-! # Written texts are cut into single tokens

A text is written as references, then escapes, then quotation marks. The scan takes it back in
one token, which holds the escaped text.
-/

namespace DocIndex.Text

/-! ## Hexadecimal digits -/

theorem hexValue?_hexDigit : ∀ n < 16, hexValue? (hexDigit n) = some n := by decide

theorem hexDigit_ne_mark : ∀ n < 16, hexDigit n ≠ '\'' ∧ hexDigit n ≠ '\\' ∧ hexDigit n ≠ '\n' := by
  decide

theorem le_hexDigit : ∀ n < 16, 0x20 ≤ (hexDigit n).toNat := by decide

theorem hexPad_two (n : Nat) : hexPad 2 n = [hexDigit (n / 16 % 16), hexDigit (n % 16)] := rfl

end DocIndex.Text

namespace DocIndex.Expression

/-! ## Steps of the scan -/

variable [CharacterNames]

theorem tokensFrom_cons {scan next : Scan} {c : Char} {tokens : List Token}
    (h : scan.step c = some (tokens, next)) (rest : List Char) :
    tokensFrom scan (c :: rest) = (tokensFrom next rest).map (tokens ++ ·) := by
  simp [tokensFrom, h]

/-- A character that completes no token. -/
theorem tokensFrom_cons_quiet {scan next : Scan} {c : Char} (h : scan.step c = some ([], next))
    (rest : List Char) : tokensFrom scan (c :: rest) = tokensFrom next rest := by
  simp [tokensFrom_cons h]

/-- The scan within single quotation marks that stand on one line. -/
def quoting (run : List Char) (escaped : Bool) : Scan :=
  .within plainText '\'' false run 0 escaped

theorem quoting_step_escaped (run : List Char) (c : Char) :
    (quoting run true).step c = some ([], quoting (c :: run) false) := by
  simp [quoting, Scan.step, quotedStep]

theorem quoting_step_backslash (run : List Char) :
    (quoting run false).step '\\' = some ([], quoting ('\\' :: run) true) := by
  simp [quoting, Scan.step, quotedStep]

theorem quoting_step_plain (run : List Char) {c : Char} (hq : c ≠ '\'') (hb : c ≠ '\\')
    (hn : c ≠ '\n') : (quoting run false).step c = some ([], quoting (c :: run) false) := by
  simp [quoting, Scan.step, quotedStep, hq, hb, hn]

end DocIndex.Expression

namespace DocIndex.PartitionFile

open Text Expression

/-! ## Characters between quotation marks -/

/-- The forms of a character between quotation marks: after a backslash, as two hexadecimal
digits, or as itself. -/
theorem quoteChar_cases (c : Char) :
    ((c = '\\' ∨ c = '\'') ∧ quoteChar c = ['\\', c]) ∨
    (c.toNat < 0x20 ∧
      quoteChar c = ['\\', 'x', hexDigit (c.toNat / 16), hexDigit (c.toNat % 16)]) ∨
    (c ≠ '\\' ∧ c ≠ '\'' ∧ 0x20 ≤ c.toNat ∧ quoteChar c = [c]) := by
  unfold quoteChar
  by_cases hmark : c = '\\' ∨ c = '\''
  · exact .inl ⟨hmark, by simp [hmark]⟩
  by_cases hlow : c.toNat < 0x20
  · refine .inr (.inl ⟨hlow, ?_⟩)
    have hhigh : c.toNat / 16 % 16 = c.toNat / 16 := by omega
    simp [hmark, hlow, hexPad_two, hhigh]
  · obtain ⟨hb, hq⟩ := not_or.mp hmark
    exact .inr (.inr ⟨hb, hq, Nat.le_of_not_lt hlow, by simp [hmark, hlow]⟩)

theorem ne_lineFeed_of_le {c : Char} (h : 0x20 ≤ c.toNat) : c ≠ '\n' := by
  rintro rfl
  exact absurd h (by decide)

variable [CharacterNames]

/-- The scan passes over a written character. -/
theorem tokensFrom_quoteChar (c : Char) (run rest : List Char) :
    tokensFrom (quoting run false) (quoteChar c ++ rest) =
      tokensFrom (quoting ((quoteChar c).reverse ++ run) false) rest := by
  rcases quoteChar_cases c with ⟨-, h⟩ | ⟨hlow, h⟩ | ⟨hb, hq, hle, h⟩
  · simp [h, tokensFrom_cons_quiet (quoting_step_backslash _),
      tokensFrom_cons_quiet (quoting_step_escaped _ _)]
  · obtain ⟨hq₁, hb₁, hn₁⟩ := hexDigit_ne_mark (c.toNat / 16) (by omega)
    obtain ⟨hq₂, hb₂, hn₂⟩ := hexDigit_ne_mark (c.toNat % 16) (by omega)
    simp [h, tokensFrom_cons_quiet (quoting_step_backslash _),
      tokensFrom_cons_quiet (quoting_step_escaped _ _),
      tokensFrom_cons_quiet (quoting_step_plain _ hq₁ hb₁ hn₁),
      tokensFrom_cons_quiet (quoting_step_plain _ hq₂ hb₂ hn₂)]
  · simp [h, tokensFrom_cons_quiet (quoting_step_plain _ hq hb (ne_lineFeed_of_le hle))]

theorem tokensFrom_quoteChars (s run rest : List Char) :
    tokensFrom (quoting run false) (s.flatMap quoteChar ++ rest) =
      tokensFrom (quoting ((s.flatMap quoteChar).reverse ++ run) false) rest := by
  induction s generalizing run with
  | nil => rfl
  | cons c s ih =>
      rw [List.flatMap_cons, List.append_assoc, tokensFrom_quoteChar, ih]
      simp

/-- A written character stands for its code point. -/
theorem unescapeFrom_quoteChar (c : Char) (rest : List Char) :
    unescapeFrom plainText .outside (quoteChar c ++ rest) =
      (unescapeFrom plainText .outside rest).map (c.toNat :: ·) := by
  rcases quoteChar_cases c with ⟨hmark, h⟩ | ⟨hlow, h⟩ | ⟨hb, -, -, h⟩
  · rcases hmark with rfl | rfl <;>
      simp [h, unescapeFrom, Escape.step, Escape.plain, escapeLetter?, Function.comp_def]
  · have hone := hexValue?_hexDigit (c.toNat / 16) (by omega)
    have htwo := hexValue?_hexDigit (c.toNat % 16) (by omega)
    have hvalue : c.toNat / 16 * 16 + c.toNat % 16 = c.toNat := by omega
    have hbound : c.toNat ≤ 0x10ffff := by omega
    simp [h, unescapeFrom, Escape.step, Escape.plain, escapeLetter?, octalValue?, hone, htwo,
      hvalue, hbound, Function.comp_def]
  · simp [h, unescapeFrom, Escape.step, Escape.plain, hb]

theorem unescapeFrom_quoteChars (s : List Char) :
    unescapeFrom plainText .outside (s.flatMap quoteChar) = some (s.map Char.toNat) := by
  induction s with
  | nil => rfl
  | cons c s ih => rw [List.flatMap_cons, unescapeFrom_quoteChar, ih]; rfl

end DocIndex.PartitionFile
