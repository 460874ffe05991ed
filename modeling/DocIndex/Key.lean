import DocIndex.Text.Lowercase
import DocIndex.Text.Quoted
import DocIndex.Text.Utf8

/-! # Keys

The key of a label is its lower-case form with every character but `a`–`z` and `0`–`9` written
as its UTF-8 bytes, each an underscore and two hexadecimal digits: `pending_free` has the key
`pending_5ffree`. A key is read back only if it is the key of the label it spells.
-/

namespace DocIndex.Key

open Text

/-- Whether `c` stands for itself in a key. -/
def isSafe (c : Char) : Bool := c.isDigit || c.isLower

/-- A byte in a key. -/
def escapeByte (b : UInt8) : List Char := '_' :: hexPad 2 b.toNat

/-- A lowered character in a key. -/
def escapeChar (c : Char) : List Char :=
  if isSafe c then [c] else (String.utf8EncodeChar c).flatMap escapeByte

/-- A text written as one unit of a key: a single safe character stands for itself, and any
other text is written byte by byte. -/
def escapeUnit : List Char → List Char
  | [c] => escapeChar c
  | s => (Utf8.encode s).flatMap escapeByte

/-- A lowered text in a key. -/
def escape (s : List Char) : List Char := s.flatMap escapeChar

/-- The key of a label. -/
def normalize (label : String) : String := String.ofList (escape (lower label.toList))

/-- Why a key cannot be read. -/
inductive Fault where
  | unexpected (c : Char)
  | brokenEscape
  | notUtf8
  | notCanonical
  deriving DecidableEq, Repr

def Fault.message : Fault → String
  | .unexpected c => "unexpected character " ++ quote c.toString
  | .brokenEscape => "escape needs two lowercase hex digits"
  | .notUtf8 => "escaped bytes are not valid UTF-8"
  | .notCanonical => "key is not in canonical escaped form"

/-- A key that cannot be read, with the offset of its fault. -/
structure DecodeError where
  key : String
  position : Nat
  fault : Fault
  deriving DecidableEq, Repr

def DecodeError.message (e : DecodeError) : String :=
  "cannot decode key " ++ quote e.key ++ " at offset " ++ toString e.position ++ ": " ++
    e.fault.message

/-- The value of a lower-case hexadecimal digit. -/
def lowerHexValue? (c : Char) : Option Nat := if c.isUpper then none else hexValue? c

/-- The bytes that the rest of a key spells from offset `i` on. -/
def bytesFrom (i : Nat) : List Char → Except (Nat × Fault) (List UInt8)
  | [] => .ok []
  | c :: rest =>
    if isSafe c then (bytesFrom (i + 1) rest).map (c.toNat.toUInt8 :: ·)
    else if c = '_' then
      match rest with
      | a :: b :: rest' =>
        match lowerHexValue? a, lowerHexValue? b with
        | some x, some y => (bytesFrom (i + 3) rest').map ((x * 16 + y).toUInt8 :: ·)
        | _, _ => .error (i, .brokenEscape)
      | _ => .error (i, .brokenEscape)
    else .error (i, .unexpected c)

/-- The lowered label that a key spells. -/
def decode (key : String) : Except DecodeError String :=
  match bytesFrom 0 key.toList with
  | .error (position, fault) => .error ⟨key, position, fault⟩
  | .ok bytes =>
    match Utf8.decode bytes with
    | .error position => .error ⟨key, position, .notUtf8⟩
    | .ok chars =>
      let label := String.ofList chars
      if normalize label = key then .ok label else .error ⟨key, 0, .notCanonical⟩

/-- Whether `key` is the key of some label. -/
def isNormalized (key : String) : Bool := (decode key).toBool

end DocIndex.Key
