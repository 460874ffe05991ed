import DocIndex.Decimal.Display
import DocIndex.Decimal.Reading
import DocIndex.Text.Quoted

/-! # Literals

The values a partition file is written in: constants, texts and bytes, and the containers built
of them.
-/

namespace DocIndex

/-- A value written out in full. -/
inductive Literal where
  | none
  | ellipsis
  | bool (b : Bool)
  | int (n : Int)
  | float (x : Float)
  | complex (re im : Float)
  | text (s : Text.CodePoints)
  | bytes (b : List Nat)
  | list (items : List Literal)
  | tuple (items : List Literal)
  | set (items : List Literal)
  | dict (items : List (Literal × Literal))

namespace Literal

/-- The name of a literal's type in messages. -/
def typeName : Literal → String
  | none => "NoneType"
  | ellipsis => "ellipsis"
  | bool _ => "bool"
  | int _ => "int"
  | float _ => "float"
  | complex _ _ => "complex"
  | text _ => "str"
  | bytes _ => "bytes"
  | list _ => "list"
  | tuple _ => "tuple"
  | set _ => "set"
  | dict _ => "dict"

/-- The items of a list or a tuple. -/
def items? : Literal → Option (List Literal)
  | list items => some items
  | tuple items => some items
  | _ => Option.none

/-- Whether the literal is a whole number. The truth values count as such. -/
def isInt : Literal → Bool
  | bool _ => true
  | int _ => true
  | _ => false

def ofString (s : String) : Literal := text (.ofString s)

mutual

/-- The type of the first part of a literal that may not stand in a set or as a key. Containers
that can change may not, and a tuple may not if one of its items may not. -/
def unhashable? : Literal → Option String
  | list _ => some "list"
  | set _ => some "set"
  | dict _ => some "dict"
  | tuple items => firstUnhashable? items
  | _ => Option.none

def firstUnhashable? : List Literal → Option String
  | [] => Option.none
  | x :: rest => (unhashable? x).or (firstUnhashable? rest)

end

/-! ## Faults -/

/-- Why a text has no value as a literal. -/
inductive Fault where
  /-- It is no literal. -/
  | unreadable
  /-- A value of this type stands in a set or as a key. -/
  | unhashable (typeName : String)
  /-- A whole number beyond all doubles is the real part of a complex number. -/
  | tooLarge
  /-- Whoever reads the text fails over it. -/
  | internal (message : String)
  deriving DecidableEq, Repr

/-- The value `v`, if it may stand in a set or as a key. -/
def hashed (v : Literal) : Except Fault Literal :=
  match v.unhashable? with
  | some typeName => .error (.unhashable typeName)
  | Option.none => .ok v

/-! ## Numbers -/

/-- A number with its sign changed. -/
def negate : Literal → Literal
  | int n => int (-n)
  | float x => float (-x)
  | complex re im => complex (-re) (-im)
  | v => v

/-- A real number as a double. -/
def real? : Literal → Option (Except Fault Float)
  | int n => some (match Decimal.intToFloat? n with
    | some x => .ok x
    | Option.none => .error .tooLarge)
  | float x => some (.ok x)
  | _ => Option.none

/-! ## Literals in messages -/

/-- A byte between quotation marks `q`. -/
def showByte (q : Char) (b : Nat) : List Char :=
  if b < 0x7f then Text.Quoted.escape q b else '\\' :: 'x' :: Text.hexPad 2 b

/-- A complex number as it is shown: the real part only if it is not a positive zero. -/
def showComplex (re im : Float) : String :=
  let part (x : Float) : String :=
    let s := Decimal.display Decimal.messageStyle x
    if s.endsWith ".0" then String.ofList (s.toList.take (s.length - 2)) else s
  if re.toBits = 0 then part im ++ "j"
  else
    let plus := if im.toBits >>> 63 = 1 then "" else "+"
    "(" ++ part re ++ plus ++ part im ++ "j)"

mutual

/-- The literal as it is shown in messages. -/
def display : Literal → String
  | none => "None"
  | ellipsis => "Ellipsis"
  | bool true => "True"
  | bool false => "False"
  | int n => toString n
  | float x => Decimal.display Decimal.messageStyle x
  | complex re im => showComplex re im
  | text s => Text.Quoted.render s
  | bytes b =>
    let q := Text.Quoted.mark b
    String.ofList ('b' :: q :: b.flatMap (showByte q) ++ [q])
  | list items => "[" ++ ", ".intercalate (displayAll items) ++ "]"
  | tuple [x] => "(" ++ display x ++ ",)"
  | tuple items => "(" ++ ", ".intercalate (displayAll items) ++ ")"
  | set [] => "set()"
  | set items => "\x7b" ++ ", ".intercalate (displayAll items) ++ "\x7d"
  | dict items => "\x7b" ++ ", ".intercalate (displayPairs items) ++ "\x7d"

def displayAll : List Literal → List String
  | [] => []
  | x :: rest => display x :: displayAll rest

def displayPairs : List (Literal × Literal) → List String
  | [] => []
  | (k, v) :: rest => (display k ++ ": " ++ display v) :: displayPairs rest

end

mutual

/-- Whether the literal can be shown: no whole number in it has more digits than may be written
out. -/
def isShowable : Literal → Bool
  | int n => decide (n.natAbs < Nat.pow 10 Decimal.digitLimit)
  | list items => allShowable items
  | tuple items => allShowable items
  | set items => allShowable items
  | dict items => pairsShowable items
  | _ => true

def allShowable : List Literal → Bool
  | [] => true
  | x :: rest => isShowable x && allShowable rest

def pairsShowable : List (Literal × Literal) → Bool
  | [] => true
  | (k, v) :: rest => isShowable k && isShowable v && pairsShowable rest

end

end Literal

end DocIndex
