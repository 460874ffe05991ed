/-! # UTF-8

Bytes are read by one scan that yields characters and faults. A fault is a maximal run of bytes
that begins a character but cannot be continued, or a single byte that begins none; it carries
the offset of its first byte. Strict and lossy decoding are two views of the scan.
-/

namespace DocIndex.Text.Utf8

def encode (s : List Char) : List UInt8 := s.flatMap String.utf8EncodeChar

/-- What the scan finds: a character, or a fault beginning at an offset. -/
inductive Item where
  | char (c : Char)
  | fault (start : Nat)
  deriving DecidableEq, Repr

/-- A character that has begun: where, how many bytes are owed, the bits so far, and the bounds
of the next byte. -/
structure Pending where
  start : Nat
  owed : Nat
  bits : Nat
  low : Nat
  high : Nat

/-- The pending character begun by byte `b` at offset `start`, if `b` begins one of several
bytes. The bounds shut out overlong forms, surrogates and numbers beyond the last code point. -/
def lead? (start b : Nat) : Option Pending :=
  if 0xc2 ≤ b ∧ b ≤ 0xdf then some ⟨start, 1, b - 0xc0, 0x80, 0xbf⟩
  else if b = 0xe0 then some ⟨start, 2, 0, 0xa0, 0xbf⟩
  else if b = 0xed then some ⟨start, 2, 0xd, 0x80, 0x9f⟩
  else if 0xe1 ≤ b ∧ b ≤ 0xef then some ⟨start, 2, b - 0xe0, 0x80, 0xbf⟩
  else if b = 0xf0 then some ⟨start, 3, 0, 0x90, 0xbf⟩
  else if 0xf1 ≤ b ∧ b ≤ 0xf3 then some ⟨start, 3, b - 0xf0, 0x80, 0xbf⟩
  else if b = 0xf4 then some ⟨start, 3, 4, 0x80, 0x8f⟩
  else none

/-- Byte `b` at offset `i` between characters. -/
def opening (i b : Nat) : List Item × Option Pending :=
  if b < 0x80 then ([.char (Char.ofNat b)], none)
  else match lead? i b with
    | some p => ([], some p)
    | none => ([.fault i], none)

/-- One byte: what is found with it, and what is pending after it. -/
def step (i : Nat) (pending : Option Pending) (b : Nat) : List Item × Option Pending :=
  match pending with
  | none => opening i b
  | some p =>
    if p.low ≤ b ∧ b ≤ p.high then
      let bits := p.bits * 64 + (b - 0x80)
      if p.owed ≤ 1 then ([.char (Char.ofNat bits)], none)
      else ([], some ⟨p.start, p.owed - 1, bits, 0x80, 0xbf⟩)
    else
      let (found, next) := opening i b
      (.fault p.start :: found, next)

/-- The scan from offset `i` on. -/
def scanFrom (i : Nat) (pending : Option Pending) : List UInt8 → List Item
  | [] => match pending with
    | none => []
    | some p => [.fault p.start]
  | b :: rest =>
    let (found, next) := step i pending b.toNat
    found ++ scanFrom (i + 1) next rest

def scan (bytes : List UInt8) : List Item := scanFrom 0 none bytes

/-- The characters found before the first fault, and that fault's offset if there is one. -/
def strict : List Item → Except Nat (List Char)
  | [] => .ok []
  | .char c :: rest => (strict rest).map (c :: ·)
  | .fault start :: _ => .error start

/-- The text that `bytes` encode, or the offset of the first fault. -/
def decode (bytes : List UInt8) : Except Nat (List Char) := strict (scan bytes)

/-- The text that `bytes` encode, with a replacement character for each fault. -/
def decodeLossy (bytes : List UInt8) : List Char :=
  (scan bytes).map fun
    | .char c => c
    | .fault _ => '\ufffd'

def mark : List UInt8 := [0xef, 0xbb, 0xbf]

/-- The bytes without a byte order mark at their start. -/
def dropMark (bytes : List UInt8) : List UInt8 :=
  if mark.isPrefixOf bytes then bytes.drop 3 else bytes

end DocIndex.Text.Utf8
