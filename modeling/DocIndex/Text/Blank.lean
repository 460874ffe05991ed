import DocIndex.Text.Range

/-! # White space

The characters of Unicode that count as white space when a text is stripped: the separators
and the control characters that end a line or a record.
-/

namespace DocIndex.Text

/-- The inclusive ranges of white space. -/
def blankRanges : List (Nat × Nat) :=
  [(0x9, 0xd), (0x1c, 0x20), (0x85, 0x85), (0xa0, 0xa0), (0x1680, 0x1680), (0x2000, 0x200a),
   (0x2028, 0x2029), (0x202f, 0x202f), (0x205f, 0x205f), (0x3000, 0x3000)]

def isBlank (c : Char) : Bool := inRanges blankRanges c.toNat

/-- The text `s` without the white space at its start. -/
def stripLeft (s : List Char) : List Char := s.dropWhile isBlank

/-- The text `s` without the white space at its end. -/
def stripRight (s : List Char) : List Char := (s.reverse.dropWhile isBlank).reverse

/-- The text `s` without the white space at either end. -/
def strip (s : List Char) : List Char := stripRight (stripLeft s)

end DocIndex.Text
