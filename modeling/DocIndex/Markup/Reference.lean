import Std.Data.HashMap
import DocIndex.Markup.Names
import DocIndex.Text.Digit

/-! # Character references

Texts in partition files are written with character references: `&amp;`, `&#38;` or `&#x26;` for
an ampersand. A named reference may lack its semicolon; then the longest known name that begins
the run of name characters is taken, and the rest of the run stays as it is.
-/

namespace DocIndex.Markup

open Text

/-- The text `s` with the characters that begin references and tags written as references. -/
def escape (s : List Char) : List Char :=
  s.flatMap fun c =>
    if c = '&' then ['&', 'a', 'm', 'p', ';']
    else if c = '<' then ['&', 'l', 't', ';']
    else if c = '>' then ['&', 'g', 't', ';']
    else [c]

def hexNumber (digits : List Char) : Nat :=
  digits.foldl (fun n c => n * 16 + (hexValue? c).getD 0) 0

/-- A name and its characters, from a form such as `bne=3d+20e5`. -/
def nameEntry (form : String) : String × List Char :=
  let chars := form.toList
  let name := chars.takeWhile (· ≠ '=')
  let numbers := ((chars.dropWhile (· ≠ '=')).drop 1).splitOn '+'
  (String.ofList name, numbers.map fun n => Char.ofNat (hexNumber n))

/-- The names closed by a semicolon, without it. -/
def closedNames : Std.HashMap String (List Char) :=
  nameLines.foldl (fun found line =>
    (line.splitOn " ").foldl (fun found form =>
      let (name, chars) := nameEntry form
      found.insert name chars) found) ∅

/-- The names that need no semicolon. -/
def openNames : Std.HashMap String (List Char) :=
  openNameLines.foldl (fun found line =>
    (line.splitOn " ").foldl (fun found name =>
      found.insert name ((closedNames.get? name).getD [])) found) ∅

/-- What the name `run`, with a semicolon at its end if it has one, stands for. The three names
that `escape` writes come before the table of all names. -/
def named? (run : List Char) : Option (List Char) :=
  if run = ['a', 'm', 'p', ';'] then some ['&']
  else if run = ['l', 't', ';'] then some ['<']
  else if run = ['g', 't', ';'] then some ['>']
  else if run.getLast? = some ';' then closedNames.get? (String.ofList run.dropLast)
  else openNames.get? (String.ofList run)

/-- The longest beginning of `run` of at most `n` and at least two characters that is a name,
replaced by what it stands for. -/
def resolveBeginning (run : List Char) : Nat → Option (List Char)
  | 0 => none
  | n + 1 =>
    if n < 1 then none
    else match named? (run.take (n + 1)) with
      | some chars => some (chars ++ run.drop (n + 1))
      | none => resolveBeginning run n

/-- A run of name characters after an ampersand, resolved. -/
def resolveName (run : List Char) : List Char :=
  match named? run with
  | some chars => chars
  | none => (resolveBeginning run (run.length - 1)).getD ('&' :: run)

/-- The code points from 0x80 on that stand for other characters, and those characters. -/
def remapped : List (Nat × Char) :=
  [(0x00, '\ufffd'), (0x0d, '\r'), (0x80, '\u20ac'), (0x81, '\u0081'), (0x82, '\u201a'),
   (0x83, '\u0192'), (0x84, '\u201e'), (0x85, '\u2026'), (0x86, '\u2020'), (0x87, '\u2021'),
   (0x88, '\u02c6'), (0x89, '\u2030'), (0x8a, '\u0160'), (0x8b, '\u2039'), (0x8c, '\u0152'),
   (0x8d, '\u008d'), (0x8e, '\u017d'), (0x8f, '\u008f'), (0x90, '\u0090'), (0x91, '\u2018'),
   (0x92, '\u2019'), (0x93, '\u201c'), (0x94, '\u201d'), (0x95, '\u2022'), (0x96, '\u2013'),
   (0x97, '\u2014'), (0x98, '\u02dc'), (0x99, '\u2122'), (0x9a, '\u0161'), (0x9b, '\u203a'),
   (0x9c, '\u0153'), (0x9d, '\u009d'), (0x9e, '\u017e'), (0x9f, '\u0178')]

/-- Whether a reference to the code point `n` stands for nothing: control characters and the
code points that are reserved from use as characters. -/
def isVoid (n : Nat) : Bool :=
  (1 ≤ n && n ≤ 8) || n == 0xb || (0xe ≤ n && n ≤ 0x1f) || (0x7f ≤ n && n ≤ 0x9f) ||
    (0xfdd0 ≤ n && n ≤ 0xfdef) || (n % 0x10000 == 0xfffe) || (n % 0x10000 == 0xffff)

/-- The text that a reference to the code point `n` stands for. -/
def numbered (n : Nat) : List Char :=
  match remapped.lookup n with
  | some c => [c]
  | none =>
    if (0xd800 ≤ n ∧ n ≤ 0xdfff) ∨ 0x10ffff < n then ['\ufffd']
    else if isVoid n then []
    else [Char.ofNat n]

/-- A number read one digit further. Beyond the last code point all numbers are alike. -/
def nextNumber (base n digit : Nat) : Nat := min (n * base + digit) 0x110000

/-- How far the reading of a reference has come. -/
inductive Progress where
  /-- Outside references. -/
  | plain
  /-- After an ampersand. -/
  | ampersand
  /-- After an ampersand and a number sign. -/
  | sign
  /-- Within the decimal digits of a number. -/
  | decimal (n : Nat)
  /-- After the letter `mark` that announces hexadecimal digits. -/
  | hexSign (mark : Char)
  /-- Within the hexadecimal digits of a number. -/
  | hex (n : Nat)
  /-- Within a name, of which `run` is read, last character first. -/
  | name (run : List Char)

/-- Whether `c` may stand in the name of a reference. -/
def isNameChar (c : Char) : Bool :=
  !(c == '\t' || c == '\n' || c == '\x0c' || c == ' ' || c == '<' || c == '&' || c == '#' ||
    c == ';')

/-- What stands for the characters read of a reference that ends here. -/
def Progress.settle : Progress → List Char
  | .plain => []
  | .ampersand => ['&']
  | .sign => ['&', '#']
  | .decimal n => numbered n
  | .hexSign mark => ['&', '#', mark]
  | .hex n => numbered n
  | .name run => resolveName run.reverse

def openPlain (c : Char) : List Char × Progress :=
  if c = '&' then ([], .ampersand) else ([c], .plain)

/-- The reference that ends before `c`, and `c` itself. -/
def Progress.leave (p : Progress) (c : Char) : List Char × Progress :=
  let (out, next) := openPlain c
  (p.settle ++ out, next)

/-- One character: what is written for it, and the progress after it. -/
def Progress.step (p : Progress) (c : Char) : List Char × Progress :=
  match p with
  | .plain => openPlain c
  | .ampersand =>
    if c = '#' then ([], .sign)
    else if isNameChar c then ([], .name [c])
    else p.leave c
  | .sign =>
    if c.isDigit then ([], .decimal (c.toNat - '0'.toNat))
    else if c = 'x' ∨ c = 'X' then ([], .hexSign c)
    else p.leave c
  | .decimal n =>
    if c.isDigit then ([], .decimal (nextNumber 10 n (c.toNat - '0'.toNat)))
    else if c = ';' then (p.settle, .plain)
    else p.leave c
  | .hexSign _ =>
    match hexValue? c with
    | some d => ([], .hex d)
    | none => p.leave c
  | .hex n =>
    match hexValue? c with
    | some d => ([], .hex (nextNumber 16 n d))
    | none => if c = ';' then (p.settle, .plain) else p.leave c
  | .name run =>
    if c = ';' then (Progress.settle (.name (c :: run)), .plain)
    else if isNameChar c && decide (run.length < 32) then ([], .name (c :: run))
    else p.leave c

/-- What `unescape` makes of a text from progress `p` on. -/
def unescapeFrom (p : Progress) : List Char → List Char
  | [] => p.settle
  | c :: rest =>
    let (out, next) := p.step c
    out ++ unescapeFrom next rest

/-- The text `s` with every character reference replaced by what it stands for. -/
def unescape (s : List Char) : List Char := unescapeFrom .plain s

/-- The most digits that a decimal reference may have. -/
def digitLimit : Nat := 4300

/-- The number of digits of the first decimal reference in `s` that has more than `digitLimit`. -/
def overlong? : List Char → Option Nat
  | [] => none
  | c :: rest =>
    let digits := ((c :: rest).drop 2).takeWhile Char.isDigit
    if c = '&' ∧ rest.head? = some '#' ∧ digitLimit < digits.length then some digits.length
    else overlong? rest

end DocIndex.Markup
