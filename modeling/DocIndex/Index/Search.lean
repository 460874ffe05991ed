import DocIndex.Index.Load

/-! # Searching

A query is answered from the store if its partition is there. Otherwise the search waits for the
load of the partition and is answered with its outcome.
-/

namespace DocIndex.Index

/-- One more search, and its number. -/
def addSearch (x : Index) (s : Search) : Index × Nat :=
  ({ x with searches := x.searches ++ [s] }, x.searches.length)

/-- One more search, which follows load number `i`. -/
def follow (x : Index) (q : Query.Prepared) (i : Nat) : Index × Nat :=
  x.addSearch (match x.loadOutcome? i with
    | some outcome => .answered (outcome.map q.answerOf)
    | none => .waiting q i)

/-- Asks for the matches of a query, and gives the number of the search. -/
def search (x : Index) (raw : String) : Index × Nat :=
  match Query.prepare? raw x.minLength with
  | none => x.addSearch (.answered (.ok (.ofShort raw)))
  | some q =>
    match x.store.entries? q.partition with
    | some entries => x.addSearch (.answered (.ok (q.answerIn entries)))
    | none =>
      let (x, i) := x.load q.partition
      x.follow q i

/-- The answer to a query that the store alone can give. -/
def searchCached (x : Index) (raw : String) : Option SearchResult :=
  match Query.prepare? raw x.minLength with
  | none => some (.ofShort raw)
  | some q =>
    match x.store.slot q.partition with
    | .unknown => none
    | .loaded entries => some (q.answerIn entries)
    | .failed _ => some q.unavailable

end DocIndex.Index
