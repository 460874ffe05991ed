import DocIndex.Text.Blank

/-! # Paths

A path is read as a sequence of names. Empty names and single dots mean nothing; two dots are
kept, since what they lead to depends on the folders.
-/

namespace DocIndex

/-- A path: how many slashes it begins with, and its names. -/
structure Path where
  root : Nat
  names : List String
  deriving DecidableEq, Repr

namespace Path

/-- The path that a text writes. It is absolute if it begins with a slash; exactly two slashes
are kept apart from one, more are not. -/
def ofString (s : String) : Path where
  root :=
    let slashes := (s.toList.takeWhile (· == '/')).length
    if 2 < slashes then 1 else slashes
  names := ((s.toList.splitOn '/').map String.ofList).filter fun name => name ≠ "" ∧ name ≠ "."

def render (p : Path) : String :=
  if p.root = 0 ∧ p.names = [] then "."
  else String.ofList (List.replicate p.root '/') ++ "/".intercalate p.names

end Path

end DocIndex
