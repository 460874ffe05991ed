import DocIndex.Decimal.Shortest
import DocIndex.Text.Blank
import DocIndex.Text.Digit

/-! # Numbers from text

Decimals are read to the nearest double; those too large become infinite, those too small
vanish. Whole numbers become doubles only while they are in range, and back by dropping the
fraction.
-/

namespace DocIndex.Decimal

open Text

def infinity : Float := 1.0 / 0.0

def notNumber : Float := 0.0 / 0.0

/-- The double nearest to `digits · 10^exponent`. Numbers far outside the range of doubles are
settled without computing the power. -/
def toFloat (digits : Nat) (exponent : Int) : Float :=
  if digits = 0 then 0.0
  else
    let point := ((Nat.toDigits 10 digits).length : Int) + exponent
    if 310 < point then infinity
    else if point < -330 then 0.0
    else Float.ofScientific digits (decide (exponent < 0)) exponent.natAbs

/-- The double nearest to a whole number, unless it lies beyond all doubles. -/
def intToFloat? (n : Int) : Option Float :=
  if Nat.pow 2 1024 - Nat.pow 2 970 ≤ n.natAbs then none
  else if n < 0 then some (-(toFloat n.natAbs 0))
  else some (toFloat n.natAbs 0)

/-- The whole part of a finite double. -/
def truncate? (x : Float) : Option Int :=
  let magnitude := x.toBits &&& 0x7fffffffffffffff
  if 0x7ff0000000000000 ≤ magnitude then none
  else
    let b := Binary.ofBits magnitude
    let whole := b.mantissa * Nat.pow 2 b.exponent.toNat / Nat.pow 2 (-b.exponent).toNat
    some (if x.toBits >>> 63 = 1 then -(whole : Int) else whole)

/-- The most digits of a whole number that is read from text or written out. -/
def digitLimit : Nat := 4300

/-- What is said of a whole number with too many digits, `detail` being how many they are. -/
def limitExceeded (detail : String) : String :=
  "Exceeds the limit (" ++ toString digitLimit ++ " digits) for integer string conversion" ++
    detail ++ "; use sys.set_int_max_str_digits() to increase the limit"

/-- What is said of a written number of `count` digits. -/
def tooManyDigits (count : Nat) : String :=
  limitExceeded (": value has " ++ toString count ++ " digits")

/-- A run of digits at the start of `s`, single underscores allowed between them, and what
follows. The value is `value` continued, `count` is the number of digits before. -/
def digitRun (value count : Nat) : List Char → Nat × Nat × List Char
  | [] => (value, count, [])
  | '_' :: c :: rest =>
    match digitValue? c with
    | some d =>
      if count = 0 then (value, count, '_' :: c :: rest)
      else digitRun (value * 10 + d) (count + 1) rest
    | none => (value, count, '_' :: c :: rest)
  | c :: rest =>
    match digitValue? c with
    | some d => digitRun (value * 10 + d) (count + 1) rest
    | none => (value, count, c :: rest)

/-- White space around a written number. The separators of records are not among it. -/
def isPadding (c : Char) : Bool := isBlank c && !(decide ('\x1c' ≤ c) && decide (c ≤ '\x1f'))

def trim (s : List Char) : List Char :=
  ((s.dropWhile isPadding).reverse.dropWhile isPadding).reverse

/-- A sign at the start of `s`: whether it is a minus, and what follows. -/
def sign (s : List Char) : Bool × List Char :=
  match s with
  | '-' :: rest => (true, rest)
  | '+' :: rest => (false, rest)
  | _ => (false, s)

/-- The whole number written in `s`, if one is; the number of its digits if it has too many. -/
def readInt (s : List Char) : Except (Option Nat) Int :=
  let (negative, body) := sign (trim s)
  match digitRun 0 0 body with
  | (_, 0, _) => .error none
  | (value, count, []) =>
    if digitLimit < count then .error (some count)
    else .ok (if negative then -(value : Int) else value)
  | _ => .error none

/-- The exponent written at the start of `s`, nothing being an exponent of zero. -/
def readExponent? : List Char → Option Int
  | [] => some 0
  | c :: rest =>
    if c = 'e' ∨ c = 'E' then
      let (negative, body) := sign rest
      match digitRun 0 0 body with
      | (_, 0, _) => none
      | (value, _, []) => some (if negative then -(value : Int) else value)
      | _ => none
    else none

/-- The unsigned decimal written in `s`. -/
def readUnsigned? (s : List Char) : Option Float :=
  let word := s.map Char.toLower
  if word = "inf".toList ∨ word = "infinity".toList then some infinity
  else if word = "nan".toList then some notNumber
  else
    let (whole, before, rest) := digitRun 0 0 s
    let (value, after, rest) := match rest with
      | '.' :: tail =>
        let (fraction, places, rest) := digitRun 0 0 tail
        (whole * Nat.pow 10 places + fraction, places, rest)
      | _ => (whole, 0, rest)
    if before + after = 0 then none
    else (readExponent? rest).map fun e => toFloat value (e - after)

/-- The double written in `s`, if one is. -/
def readFloat? (s : List Char) : Option Float :=
  let (negative, body) := sign (trim s)
  (readUnsigned? body).map fun x => if negative then -x else x

end DocIndex.Decimal
