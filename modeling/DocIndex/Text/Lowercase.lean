import DocIndex.Text.Case

/-! # Lower case

Each character is lowered by itself, with two exceptions: a capital I with a dot becomes two
characters, and a capital sigma takes its final form at the end of a word. A word's end is seen
from the letters around the sigma, with marks and punctuation inside words passed over.
-/

namespace DocIndex.Text

/-- The lower-case form of a character that has one by itself. -/
def lowerChar (c : Char) : Char :=
  if c.toNat < 0x80 then c.toLower
  else match caseRuns.findSome? (·.lower? c.toNat) with
    | some n => Char.ofNat n
    | none => c

/-- Whether the nearest character that is not passed over is a letter with case. -/
def meetsCased (nearest : List Char) : Bool :=
  match nearest.dropWhile isCaseIgnorable with
  | [] => false
  | c :: _ => isCased c

/-- The form of a sigma: final after a letter and with no letter following. The characters
`before` it are given nearest first. -/
def sigmaForm (before after : List Char) : Char :=
  if meetsCased before && !meetsCased after then 'ς' else 'σ'

/-- The lower-case form of `c` between `before`, nearest first, and `after`. -/
def lowerBetween (before : List Char) (c : Char) (after : List Char) : List Char :=
  if c = 'Σ' then [sigmaForm before after]
  else if c = 'İ' then ['i', '\u0307']
  else [lowerChar c]

/-- What `lower` makes of a text that follows `before`, nearest first. -/
def lowerAfter (before : List Char) : List Char → List Char
  | [] => []
  | c :: rest => lowerBetween before c rest ++ lowerAfter (c :: before) rest

def lower (s : List Char) : List Char := lowerAfter [] s

end DocIndex.Text
