import DocIndex.Decimal.Reading
import DocIndex.Json.Basic
import DocIndex.Text.Digit

/-! # Tokens of JSON

A text is cut into tokens one character at a time: brackets, commas and colons, quoted texts,
and runs of other characters, which must spell a constant or a number.
-/

namespace DocIndex.Json

open Text

inductive Token where
  | openArray
  | closeArray
  | openObject
  | closeObject
  | comma
  | colon
  | text (s : CodePoints)
  /-- A number or a constant. -/
  | scalar (v : Json)

/-! ## Numbers and constants -/

/-- Decimal digits at the start of `s`, and what follows them. -/
def digits (s : List Char) : List Char × List Char :=
  (s.takeWhile Char.isDigit, s.dropWhile Char.isDigit)

def digitsValue (s : List Char) : Nat := s.foldl (fun n c => n * 10 + (c.toNat - '0'.toNat)) 0

/-- The exponent that `s` is: nothing, or a letter, perhaps a sign, and digits. -/
def exponent? (s : List Char) : Option Int :=
  match s with
  | [] => some 0
  | c :: rest =>
    if c = 'e' ∨ c = 'E' then
      let (negative, body) := Decimal.sign rest
      if body.isEmpty ∨ !body.all Char.isDigit then none
      else some (if negative then -(digitsValue body : Int) else digitsValue body)
    else none

/-- The number without a sign that `s` writes. Its whole part has no needless zero. -/
def unsigned? (negative : Bool) (s : List Char) : Option Json :=
  let (whole, rest) := digits s
  if whole.isEmpty ∨ (whole.head? = some '0' ∧ 1 < whole.length) then none
  else if rest.isEmpty then
    if Decimal.digitLimit < whole.length then none
    else some (.int (if negative then -(digitsValue whole : Int) else digitsValue whole))
  else
    let float (fraction tail : List Char) : Option Json :=
      (exponent? tail).map fun e =>
        let x := Decimal.toFloat (digitsValue (whole ++ fraction)) (e - fraction.length)
        .float (if negative then -x else x)
    match rest with
    | '.' :: rest =>
      let (fraction, tail) := digits rest
      if fraction.isEmpty then none else float fraction tail
    | _ => float [] rest

/-- The number or constant that a run of characters spells. -/
def scalar? (run : List Char) : Option Json :=
  if run = "null".toList then some .null
  else if run = "true".toList then some (.bool true)
  else if run = "false".toList then some (.bool false)
  else if run = "NaN".toList then some (.float Decimal.notNumber)
  else if run = "Infinity".toList then some (.float Decimal.infinity)
  else if run = "-Infinity".toList then some (.float (-Decimal.infinity))
  else match run with
    | '-' :: rest => unsigned? true rest
    | _ => unsigned? false run

/-! ## Texts -/

/-- The code points read so far, the last one first, and one more from an escape. The two halves
of a pair of surrogates become one code point. -/
def pushEscaped (points : List Nat) (n : Nat) : List Nat :=
  match points with
  | high :: rest =>
    if 0xd800 ≤ high ∧ high ≤ 0xdbff ∧ 0xdc00 ≤ n ∧ n ≤ 0xdfff then
      (0x10000 + (high - 0xd800) * 0x400 + (n - 0xdc00)) :: rest
    else n :: points
  | [] => [n]

/-- The character of an escape of one letter. -/
def escapeLetter? (c : Char) : Option Nat :=
  if c = '"' ∨ c = '\\' ∨ c = '/' then some c.toNat
  else if c = 'b' then some 8
  else if c = 'f' then some 12
  else if c = 'n' then some 10
  else if c = 'r' then some 13
  else if c = 't' then some 9
  else none

/-! ## The cutting -/

/-- How far the reading of a token has come. What has been read of it stands last first. -/
inductive Scan where
  | between
  | run (chars : List Char)
  | within (points : List Nat)
  | escape (points : List Nat)
  | hex (points : List Nat) (value owed : Nat)

def isSpace (c : Char) : Bool := c == ' ' || c == '\t' || c == '\n' || c == '\r'

/-- The token that a single character is. -/
def mark? (c : Char) : Option Token :=
  if c = '[' then some .openArray
  else if c = ']' then some .closeArray
  else if c = '\x7b' then some .openObject
  else if c = '\x7d' then some .closeObject
  else if c = ',' then some .comma
  else if c = ':' then some .colon
  else none

/-- A character that begins a token or separates two. -/
def startToken (c : Char) : List Token × Scan :=
  if isSpace c then ([], .between)
  else if c = '"' then ([], .within [])
  else match mark? c with
    | some token => ([token], .between)
    | none => ([], .run [c])

/-- One character: the tokens it completes and the progress after it. -/
def Scan.step : Scan → Char → Option (List Token × Scan)
  | .between, c => some (startToken c)
  | .run chars, c =>
    if isSpace c ∨ c = '"' ∨ (mark? c).isSome then
      (scalar? chars.reverse).map fun v =>
        let (tokens, next) := startToken c
        (.scalar v :: tokens, next)
    else some ([], .run (c :: chars))
  | .within points, c =>
    if c = '"' then some ([.text ⟨points.reverse⟩], .between)
    else if c = '\\' then some ([], .escape points)
    else if c < ' ' then none
    else some ([], .within (c.toNat :: points))
  | .escape points, c =>
    match escapeLetter? c with
    | some n => some ([], .within (n :: points))
    | none => if c = 'u' then some ([], .hex points 0 4) else none
  | .hex points value owed, c =>
    (hexValue? c).map fun d =>
      if 1 < owed then ([], .hex points (value * 16 + d) (owed - 1))
      else ([], .within (pushEscaped points (value * 16 + d)))

/-- The tokens completed by the end of the text. -/
def Scan.finish : Scan → Option (List Token)
  | .between => some []
  | .run chars => (scalar? chars.reverse).map fun v => [.scalar v]
  | _ => none

/-- The tokens of `s` read from progress `scan` on. -/
def tokensFrom (scan : Scan) : List Char → Option (List Token)
  | [] => scan.finish
  | c :: rest =>
    (scan.step c).bind fun (tokens, next) => (tokensFrom next rest).map (tokens ++ ·)

/-- The tokens of `s`, if it can be cut. -/
def tokens? (s : List Char) : Option (List Token) := tokensFrom .between s

end DocIndex.Json
