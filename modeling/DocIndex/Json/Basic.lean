import DocIndex.Text.CodePoints

/-! # JSON values

The values of settings files. Whole numbers of any size are kept apart from doubles, texts may
hold lone surrogates, and the fields of an object stand in the order in which they were first
set.
-/

namespace DocIndex

inductive Json where
  | null
  | bool (b : Bool)
  | int (n : Int)
  | float (x : Float)
  | text (s : Text.CodePoints)
  | array (items : List Json)
  | object (fields : List (Text.CodePoints × Json))

namespace Json

open Text

/-- The fields of an object. -/
abbrev Fields := List (CodePoints × Json)

/-- The fields with one of them set. A field that is there keeps its place. -/
def Fields.set (fields : Fields) (name : CodePoints) (v : Json) : Fields :=
  match fields with
  | [] => [(name, v)]
  | (n, w) :: rest => if n = name then (n, v) :: rest else (n, w) :: Fields.set rest name v

def Fields.get? (fields : Fields) (name : CodePoints) : Option Json := fields.lookup name

end Json

end DocIndex
