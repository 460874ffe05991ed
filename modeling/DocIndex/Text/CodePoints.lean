import DocIndex.Text.Blank

/-! # Texts that may hold lone surrogates

An escape in a literal can name any code point, also a surrogate, which no `Char` stands for.
Such a text is kept as its code points.
-/

namespace DocIndex.Text

/-- A text as the sequence of its code points. -/
structure CodePoints where
  points : List Nat
  deriving DecidableEq, Repr

namespace CodePoints

def ofChars (s : List Char) : CodePoints := ⟨s.map Char.toNat⟩

def ofString (s : String) : CodePoints := ofChars s.toList

def append (s t : CodePoints) : CodePoints := ⟨s.points ++ t.points⟩

def isSurrogate (n : Nat) : Bool := decide (0xd800 ≤ n) && decide (n ≤ 0xdfff)

def firstSurrogate? (s : CodePoints) : Option Nat := s.points.find? isSurrogate

/-- The characters, with a replacement character for each lone surrogate. What goes on as a
`String` does not keep them. -/
def lossy (s : CodePoints) : List Char :=
  s.points.map fun n => if isSurrogate n then '\ufffd' else Char.ofNat n

/-- Whether the code point `n` is white space. -/
def isBlank (n : Nat) : Bool := inRanges blankRanges n

/-- The text without the white space at either end. -/
def strip (s : CodePoints) : CodePoints :=
  ⟨((s.points.dropWhile isBlank).reverse.dropWhile isBlank).reverse⟩

end CodePoints

end DocIndex.Text
