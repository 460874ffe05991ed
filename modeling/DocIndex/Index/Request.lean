import DocIndex.Fault

/-! # Requests

A computation that asks for files is given the replies to its requests and nothing else of those
who serve them. The names it asks for are told with its result.
-/

namespace DocIndex

/-- A computation that may ask for files by name. -/
inductive Request (α : Type) where
  | done (a : α)
  | ask (name : String) (next : Except Fault String → Request α)

namespace Request

variable {α : Type} {fetch fetch' : String → Except Fault String}

/-- The names asked for, in order, and the result, if `fetch` gives the replies. -/
def run (fetch : String → Except Fault String) : Request α → List String × α
  | done a => ([], a)
  | ask name next =>
    let (names, a) := (next (fetch name)).run fetch
    (name :: names, a)

end Request

end DocIndex
