import DocIndex.Literal.Basic

/-! # Equality of members and keys

A set holds no two equal members, and a dictionary no two equal keys. Numbers are equal if they
have the same value, whatever their type; tuples are equal item by item.
-/

namespace DocIndex.Literal

/-- The simplest literal of the same value: a truth value counts as zero or one, and a complex
number without an imaginary part is real. -/
def simplest : Literal → Literal
  | bool b => int (if b then 1 else 0)
  | complex re im => if im == 0.0 then float re else complex re im
  | v => v

/-- Whether the double `x` is the whole number `n` exactly. -/
def isWhole (n : Int) (x : Float) : Bool :=
  Decimal.truncate? x == some n && (Decimal.intToFloat? n).any (· == x)

/-- Whether two literals without parts are equal. -/
def sameAtom (v w : Literal) : Bool :=
  match v.simplest, w.simplest with
  | none, none => true
  | ellipsis, ellipsis => true
  | int m, int n => m == n
  | int n, float x => isWhole n x
  | float x, int n => isWhole n x
  | float x, float y => x == y
  | complex re im, complex re' im' => re == re' && im == im'
  | text s, text t => s == t
  | bytes a, bytes b => a == b
  | _, _ => false

mutual

/-- Whether two literals are one as members of a set or as keys. -/
def same : Literal → Literal → Bool
  | tuple items, tuple items' => allSame items items'
  | v, w => sameAtom v w

def allSame : List Literal → List Literal → Bool
  | [], [] => true
  | v :: rest, w :: rest' => same v w && allSame rest rest'
  | _, _ => false

end

/-- The members with one more, unless an equal one is there. -/
def addMember (members : List Literal) (v : Literal) : List Literal :=
  if members.any (same · v) then members else members ++ [v]

/-- The set of the literals `vs`. -/
def ofMembers (vs : List Literal) : Literal := set (vs.foldl addMember [])

/-- The entries with the value of a key set. An equal key that is there keeps its place. -/
def setEntry (entries : List (Literal × Literal)) (key value : Literal) :
    List (Literal × Literal) :=
  match entries with
  | [] => [(key, value)]
  | (k, v) :: rest => if same k key then (k, value) :: rest else (k, v) :: setEntry rest key value

/-- The dictionary of the entries `kvs`, the last value for each key. -/
def ofEntries (kvs : List (Literal × Literal)) : Literal :=
  dict (kvs.foldl (fun entries (k, v) => setEntry entries k v) [])

end DocIndex.Literal
