import DocIndex.Entry
import DocIndex.Partition

/-! # Queries

A query matches the entries whose key begins with the query's own key. In a list of entries in
key order these stand together, and the first of them is found by bisection.
-/

namespace DocIndex.Query

/-- A query without the spaces at its start. -/
def trimStart (raw : String) : String := String.ofList (raw.toList.dropWhile (· == ' '))

/-- A query that can be run: its text, its key, and the partition that holds its matches. -/
structure Prepared where
  text : String
  normalized : String
  partition : Partition
  deriving DecidableEq

/-- The fewest characters of a query, unless another number is chosen. -/
def defaultLength : Int := 1

/-- A query made ready to run, unless it has fewer than `minLength` characters. At least one is
always needed. -/
def prepare? (raw : String) (minLength : Int) : Option Prepared :=
  let text := trimStart raw
  if (text.length : Int) < max 1 minLength then none
  else some ⟨text, Key.normalize text, Partition.ofQuery text⟩

/-- Whether the key of an entry begins with `start`. -/
def matchesKey (start : String) (e : Entry) : Bool := start.toList.isPrefixOf e.key.toList

/-- The place between `low` and `high` found by halving: the entry in the middle is passed over
if its key is smaller than `key`. -/
def bisect (entries : Array Entry) (key : String) (low high : Nat) (h : high ≤ entries.size) :
    Nat :=
  if hlt : low < high then
    let middle := (low + high) / 2
    if entries[middle].key < key then bisect entries key (middle + 1) high h
    else bisect entries key low middle (by omega)
  else low
termination_by high - low

/-- The place in a sorted list at which `key` would be inserted. -/
def lowerBound (entries : List Entry) (key : String) : Nat :=
  bisect entries.toArray key 0 entries.toArray.size (Nat.le_refl _)

/-- The entries of a sorted list whose key begins with `start`. -/
def filterByKey (entries : List Entry) (start : String) : List Entry :=
  if start = "" then entries
  else (entries.drop (lowerBound entries start)).takeWhile (matchesKey start)

end DocIndex.Query
