import DocIndex.Decimal.Display
import DocIndex.Json.Basic
import DocIndex.Text.Digit

/-! # Writing JSON

Values are written in ASCII, each item and each field on a line of its own, two spaces further
in than the brackets around it. Empty brackets stay on one line.
-/

namespace DocIndex.Json

open Text

/-- A 16-bit unit as an escape. -/
def escapeUnit (n : Nat) : List Char := '\\' :: 'u' :: hexPad 4 n

/-- A code point between quotation marks. -/
def escapePoint (n : Nat) : List Char :=
  if n = '"'.toNat then ['\\', '"']
  else if n = '\\'.toNat then ['\\', '\\']
  else if n = 8 then ['\\', 'b']
  else if n = 9 then ['\\', 't']
  else if n = 10 then ['\\', 'n']
  else if n = 12 then ['\\', 'f']
  else if n = 13 then ['\\', 'r']
  else if 0x20 ≤ n ∧ n < 0x7f then [Char.ofNat n]
  else if n < 0x10000 then escapeUnit n
  else escapeUnit (0xd800 + (n - 0x10000) / 0x400) ++ escapeUnit (0xdc00 + (n - 0x10000) % 0x400)

def writeText (s : CodePoints) : List Char := '"' :: s.points.flatMap escapePoint ++ ['"']

/-- The start of a line at a depth. -/
def newLine (depth : Nat) : List Char := '\n' :: List.replicate (2 * depth) ' '

mutual

/-- A value whose brackets stand at `depth`. -/
def write (depth : Nat) : Json → List Char
  | null => "null".toList
  | bool true => "true".toList
  | bool false => "false".toList
  | int n => (toString n).toList
  | float x => (Decimal.display Decimal.fileStyle x).toList
  | text s => writeText s
  | array [] => ['[', ']']
  | array (v :: rest) =>
    '[' :: newLine (depth + 1) ++ write (depth + 1) v ++ writeItems (depth + 1) rest ++
      newLine depth ++ [']']
  | object [] => ['\x7b', '\x7d']
  | object ((name, v) :: rest) =>
    '\x7b' :: newLine (depth + 1) ++ writeText name ++ [':', ' '] ++ write (depth + 1) v ++
      writeFields (depth + 1) rest ++ newLine depth ++ ['\x7d']

/-- The items after the first. -/
def writeItems (depth : Nat) : List Json → List Char
  | [] => []
  | v :: rest => ',' :: newLine depth ++ write depth v ++ writeItems depth rest

/-- The fields after the first. -/
def writeFields (depth : Nat) : Fields → List Char
  | [] => []
  | (name, v) :: rest =>
    ',' :: newLine depth ++ writeText name ++ [':', ' '] ++ write depth v ++
      writeFields depth rest

end

def print (v : Json) : String := String.ofList (write 0 v)

end DocIndex.Json
