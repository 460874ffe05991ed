import DocIndex.Literal.Equality
import DocIndex.Text.Identifier

/-! # Expressions

What an expression is made of, as far as its value as a literal depends on it. Parts are valued
from left to right, so the first fault among them is the fault of the whole.
-/

namespace DocIndex

open Text

/-- An expression. Grouping leaves no trace in it. -/
inductive Expression where
  /-- A number, a text, bytes, or a word or sign for a value. -/
  | constant (v : Literal)
  | name (letters : String)
  | list (items : List Expression)
  | tuple (items : List Expression)
  | set (items : List Expression)
  | dict (pairs : List (Expression × Expression))
  | signed (negative : Bool) (e : Expression)
  | sum (left : Expression) (negative : Bool) (right : Expression)
  /-- A call without arguments. -/
  | call (function : Expression)
  /-- The items of a value, in the place of one item. -/
  | starred (e : Expression)
  /-- An attribute or an element of a value. -/
  | member
  /-- An expression of another form, which is no literal. -/
  | other

namespace Expression

def isStarred : Expression → Bool
  | starred _ => true
  | _ => false

mutual

/-- Whether the expression may take the values of a loop. -/
def isTarget : Expression → Bool
  | name _ => true
  | member => true
  | starred e => isTarget e
  | list items => allTargets items
  | tuple items => allTargets items
  | _ => false

def allTargets : List Expression → Bool
  | [] => true
  | e :: rest => isTarget e && allTargets rest

end

/-! ## Numbers -/

/-- The number that the expression writes without a sign. -/
def number? : Expression → Option Literal
  | constant (.int n) => some (.int n)
  | constant (.float x) => some (.float x)
  | constant (.complex re im) => some (.complex re im)
  | _ => none

/-- The number that the expression writes with one sign or none. -/
def signedNumber? : Expression → Option Literal
  | signed negative e => e.number?.map fun v => if negative then v.negate else v
  | e => e.number?

/-- The value of a sum or a difference: of a real number, which may have a sign, and an imaginary
one, which may not. -/
def complexNumber (left : Expression) (negative : Bool) (right : Expression) :
    Except Literal.Fault Literal :=
  match left.signedNumber?.bind Literal.real?, right.number? with
  | some x, some (.complex re im) =>
    x.map fun x => if negative then .complex (x - re) (0.0 - im) else .complex (x + re) (0.0 + im)
  | _, _ => .error .unreadable

/-! ## Values -/

/-- Whether the letters name the set, in whatever style they are written. -/
def namesSet (letters : String) : Bool := letters.toList.map plainLetter == ['s', 'e', 't']

mutual

/-- The value of the expression as a literal. -/
def value : Expression → Except Literal.Fault Literal
  | constant v => .ok v
  | list items => (values items).map .list
  | tuple items => (values items).map .tuple
  | set items => (members items).map .ofMembers
  | dict pairs => (entries pairs).map .ofEntries
  | signed negative e =>
    match (signed negative e).signedNumber? with
    | some v => .ok v
    | none => .error .unreadable
  | sum left negative right => complexNumber left negative right
  | call (name letters) => if namesSet letters then .ok (.set []) else .error .unreadable
  | _ => .error .unreadable

def values : List Expression → Except Literal.Fault (List Literal)
  | [] => .ok []
  | e :: rest => do
    let v ← value e
    let vs ← values rest
    return v :: vs

/-- The values of the members of a set. -/
def members : List Expression → Except Literal.Fault (List Literal)
  | [] => .ok []
  | e :: rest => do
    let v ← value e
    let v ← v.hashed
    let vs ← members rest
    return v :: vs

/-- The values of keys, each with the value after it. A key is tried when both are known. -/
def entries : List (Expression × Expression) → Except Literal.Fault (List (Literal × Literal))
  | [] => .ok []
  | (k, e) :: rest => do
    let k ← value k
    let v ← value e
    let k ← k.hashed
    let kvs ← entries rest
    return (k, v) :: kvs

end

end Expression

end DocIndex
