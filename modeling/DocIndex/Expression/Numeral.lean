import DocIndex.Decimal.Reading
import DocIndex.Literal.Basic

/-! # Numerals

Numbers as they are written: whole in four bases, with a fraction or an exponent, and imaginary.
A number goes as far as its characters can belong to one; whether they do is seen at its end.
-/

namespace DocIndex.Expression

open Text

/-! ## The extent of a number -/

/-- How far a number has been read. -/
inductive Numeral where
  /-- A single zero. -/
  | zero
  /-- After the letter that announces a base. -/
  | radix (base : Nat)
  | whole
  /-- After a decimal point. -/
  | fraction
  /-- After the letter of an exponent. -/
  | marked
  /-- After the sign of an exponent. -/
  | signed
  | exponent
  | imaginary
  deriving DecidableEq, Repr

namespace Numeral

/-- A character after the digits of a decimal number that had no exponent yet. -/
def afterDigits (c : Char) : Option Numeral :=
  if c = 'e' ∨ c = 'E' then some marked
  else if c = 'j' ∨ c = 'J' then some imaginary
  else none

/-- The number with one more character, if it belongs to it. -/
def step : Numeral → Char → Option Numeral
  | zero, c =>
    if c.isDigit ∨ c = '_' then some whole
    else if c = 'x' ∨ c = 'X' then some (radix 16)
    else if c = 'o' ∨ c = 'O' then some (radix 8)
    else if c = 'b' ∨ c = 'B' then some (radix 2)
    else if c = '.' then some fraction
    else afterDigits c
  | radix base, c =>
    if c.isDigit ∨ c = '_' ∨ (base = 16 ∧ (hexValue? c).isSome) then some (radix base)
    else none
  | whole, c =>
    if c.isDigit ∨ c = '_' then some whole
    else if c = '.' then some fraction
    else afterDigits c
  | fraction, c => if c.isDigit ∨ c = '_' then some fraction else afterDigits c
  | marked, c =>
    if c.isDigit then some exponent
    else if c = '+' ∨ c = '-' then some signed
    else none
  | signed, c => if c.isDigit then some exponent else none
  | exponent, c =>
    if c.isDigit ∨ c = '_' then some exponent
    else if c = 'j' ∨ c = 'J' then some imaginary
    else none
  | imaginary, _ => none

end Numeral

/-! ## The value of a number -/

/-- The number written in `base`, single underscores allowed before digits. `value` is the number
so far and `started` says whether a digit has been read. -/
def radixNumber? (base value : Nat) (started : Bool) : List Char → Option Nat
  | [] => if started then some value else none
  | '_' :: c :: rest =>
    match hexValue? c with
    | some d => if d < base then radixNumber? base (value * base + d) true rest else none
    | none => none
  | c :: rest =>
    match hexValue? c with
    | some d => if d < base then radixNumber? base (value * base + d) true rest else none
    | none => none

/-- The whole number of `count` decimal digits that `run` writes with `value`. It may begin with
zeros only if it is zero, and its length is limited unless it is. -/
def wholeNumber? (run : List Char) (value count : Nat) : Option Literal :=
  if value = 0 then some (.int 0)
  else if run.head? = some '0' ∨ Decimal.digitLimit < count then none
  else some (.int value)

/-- The decimal number that `run` writes: whole, with a fraction or an exponent, or imaginary. -/
def decimalNumber? (run : List Char) : Option Literal :=
  let imaginary := run.getLast? == some 'j' || run.getLast? == some 'J'
  let body := if imaginary then run.dropLast else run
  let (whole, before, rest) := Decimal.digitRun 0 0 body
  let (value, after, tail) := match rest with
    | '.' :: rest =>
      let (fraction, places, rest) := Decimal.digitRun 0 0 rest
      (whole * Nat.pow 10 places + fraction, places, rest)
    | _ => (whole, 0, rest)
  if before + after = 0 then none
  else match Decimal.readExponent? tail with
    | none => none
    | some e =>
      let x := Decimal.toFloat value (e - after)
      if imaginary then some (.complex 0.0 x)
      else if rest.isEmpty then wholeNumber? run whole before
      else some (.float x)

/-- The number that a run of characters writes, if it writes one. -/
def numeralValue? (run : List Char) : Option Literal :=
  if run.any fun c => decide (0x80 ≤ c.toNat) then none
  else
    let radix (base : Nat) (digits : List Char) : Option Literal :=
      (radixNumber? base 0 false digits).map fun n => .int n
    match run with
    | '0' :: 'x' :: digits => radix 16 digits
    | '0' :: 'X' :: digits => radix 16 digits
    | '0' :: 'o' :: digits => radix 8 digits
    | '0' :: 'O' :: digits => radix 8 digits
    | '0' :: 'b' :: digits => radix 2 digits
    | '0' :: 'B' :: digits => radix 2 digits
    | _ => decimalNumber? run

/-- The number that `run` writes directly before a word that begins like an exponent. There a
whole number may begin with zeros, and counts as a double if it does. -/
def numeralBeforeWord? (run : List Char) : Option Literal :=
  (numeralValue? run).or (if run.head? = some '0' then numeralValue? (run ++ ['.']) else none)

end DocIndex.Expression
