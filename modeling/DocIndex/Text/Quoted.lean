import DocIndex.Text.CodePoints
import DocIndex.Text.Digit
import DocIndex.Text.Printable

/-! # Quoted texts in messages

A text is shown between single quotes, or between double quotes if it holds a single quote and
no double one. Characters that cannot be shown are written as escapes of two, four or eight
hexadecimal digits.
-/

namespace DocIndex.Text.Quoted

/-- The quotation mark for a text. -/
def mark (points : List Nat) : Char :=
  if points.contains '\''.toNat && !points.contains '"'.toNat then '"' else '\''

/-- One code point between quotation marks `q`. -/
def escape (q : Char) (n : Nat) : List Char :=
  if n = '\\'.toNat ∨ n = q.toNat then ['\\', Char.ofNat n]
  else if n = '\n'.toNat then ['\\', 'n']
  else if n = '\r'.toNat then ['\\', 'r']
  else if n = '\t'.toNat then ['\\', 't']
  else if isPrintable n then [Char.ofNat n]
  else if n < 0x100 then '\\' :: 'x' :: hexPad 2 n
  else if n < 0x10000 then '\\' :: 'u' :: hexPad 4 n
  else '\\' :: 'U' :: hexPad 8 n

/-- A text given by its code points, quoted. -/
def render (s : CodePoints) : String :=
  let q := mark s.points
  String.ofList (q :: s.points.flatMap (escape q) ++ [q])

end DocIndex.Text.Quoted

namespace DocIndex.Text

/-- The text `s` as it is quoted in messages. -/
def quote (s : String) : String := Quoted.render (.ofString s)

end DocIndex.Text
