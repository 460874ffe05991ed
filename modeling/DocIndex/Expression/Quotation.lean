import DocIndex.Text.Digit

/-! # Quotation

What stands between quotation marks. Letters before the first mark say what is quoted and
whether backslashes escape.
-/

namespace DocIndex.Expression

open Text

/-- What is quoted: a text, bytes, or a text with fields that are expressions. -/
inductive Content.Kind where
  | text
  | bytes
  | template
  deriving DecidableEq, Repr

/-- What stands between quotation marks, with or without escapes. -/
structure Content where
  kind : Content.Kind
  raw : Bool
  deriving DecidableEq, Repr

/-- A text with escapes. -/
def plainText : Content := ⟨.text, false⟩

/-- The content announced by the letters before a quotation mark, if they announce one. -/
def content? (letters : List Char) : Option Content :=
  match letters.map Char.toLower with
  | ['u'] => some plainText
  | ['r'] => some ⟨.text, true⟩
  | ['b'] => some ⟨.bytes, false⟩
  | ['b', 'r'] => some ⟨.bytes, true⟩
  | ['r', 'b'] => some ⟨.bytes, true⟩
  | ['f'] => some ⟨.template, false⟩
  | ['f', 'r'] => some ⟨.template, true⟩
  | ['r', 'f'] => some ⟨.template, true⟩
  | _ => none

/-- The names of characters that escapes may use. Which there are is left open. -/
class CharacterNames where
  /-- The character with this name. -/
  named? : List Char → Option Char

/-- How far the reading of an escape has come. -/
inductive Escape where
  /-- Outside escapes. -/
  | outside
  /-- After a backslash. -/
  | started
  /-- After `count` octal digits. -/
  | octal (value count : Nat)
  /-- With `owed` hexadecimal digits to come. -/
  | hex (value owed : Nat)
  /-- After the letter that announces a name, which stands between curly brackets. -/
  | announced
  /-- In the name of a character, of which `run` has been read, the last letter first. -/
  | name (run : List Char)

/-- The character of an escape of one letter. -/
def escapeLetter? (c : Char) : Option Nat :=
  if c = '\\' ∨ c = '\'' ∨ c = '"' then some c.toNat
  else if c = 'a' then some 7
  else if c = 'b' then some 8
  else if c = 't' then some 9
  else if c = 'n' then some 10
  else if c = 'v' then some 11
  else if c = 'f' then some 12
  else if c = 'r' then some 13
  else none

def octalValue? (c : Char) : Option Nat :=
  if '0' ≤ c ∧ c ≤ '7' then some (c.toNat - '0'.toNat) else none

/-- A finished octal escape. A byte keeps its lowest eight bits. -/
def octalPoint (content : Content) (value : Nat) : Nat :=
  if content.kind = .bytes then value % 0x100 else value

/-- One character outside escapes. -/
def Escape.plain (c : Char) : List Nat × Escape :=
  if c = '\\' then ([], .started) else ([c.toNat], .outside)

variable [CharacterNames]

/-- One character: the code points it completes and the progress after it. Letters that announce
no escape keep their backslash. -/
def Escape.step (content : Content) : Escape → Char → Option (List Nat × Escape)
  | .outside, c => some (Escape.plain c)
  | .started, c =>
    if c = '\n' then some ([], .outside)
    else match escapeLetter? c, octalValue? c with
      | some n, _ => some ([n], .outside)
      | none, some d => some ([], .octal d 1)
      | none, none =>
        if c = 'x' then some ([], .hex 0 2)
        else if content.kind = .bytes then some (['\\'.toNat, c.toNat], .outside)
        else if c = 'u' then some ([], .hex 0 4)
        else if c = 'U' then some ([], .hex 0 8)
        else if c = 'N' then some ([], .announced)
        else some (['\\'.toNat, c.toNat], .outside)
  | .octal value count, c =>
    match octalValue? c with
    | some d =>
      if count < 2 then some ([], .octal (value * 8 + d) (count + 1))
      else some ([octalPoint content (value * 8 + d)], .outside)
    | none =>
      let (points, next) := Escape.plain c
      some (octalPoint content value :: points, next)
  | .hex value owed, c =>
    match hexValue? c with
    | some d =>
      if 1 < owed then some ([], .hex (value * 16 + d) (owed - 1))
      else if value * 16 + d ≤ 0x10ffff then some ([value * 16 + d], .outside)
      else none
    | none => none
  | .announced, c => if c = '\x7b' then some ([], .name []) else none
  | .name run, c =>
    if c = '\x7d' then
      (CharacterNames.named? run.reverse).map fun named => ([named.toNat], .outside)
    else some ([], .name (c :: run))

/-- The code points of a quoted text read from progress `e` on. -/
def unescapeFrom (content : Content) (e : Escape) : List Char → Option (List Nat)
  | [] => match e with
    | .outside => some []
    | .octal value _ => some [octalPoint content value]
    | _ => none
  | c :: rest =>
    match e.step content c with
    | none => none
    | some (points, next) => (unescapeFrom content next rest).map (points ++ ·)

/-- The code points that a quoted text stands for. -/
def Content.points? (content : Content) (body : List Char) : Option (List Nat) :=
  if content.raw then some (body.map Char.toNat) else unescapeFrom content .outside body

end DocIndex.Expression
