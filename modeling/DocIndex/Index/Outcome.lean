import DocIndex.Fault
import DocIndex.Query

/-! # Outcomes of loads and searches -/

namespace DocIndex

/-- What the load of a partition came to: its entries and the number of records left out, or the
reason why there are none. -/
inductive LoadResult where
  | loaded (entries : List Entry) (dropped : Nat)
  | failed (reason : String)
  deriving DecidableEq

namespace LoadResult

def entries : LoadResult → List Entry
  | loaded entries _ => entries
  | failed _ => []

def dropped : LoadResult → Nat
  | loaded _ dropped => dropped
  | failed _ => 0

def reason? : LoadResult → Option String
  | loaded _ _ => none
  | failed reason => some reason

end LoadResult

/-- The answer to a query: its text and key, and the entries found. There are none if the
partition could not be had. -/
structure SearchResult where
  query : String
  normalized : String
  found : Option (List Entry)
  deriving DecidableEq

namespace SearchResult

/-- Whether the partition could not be had. -/
def failed (r : SearchResult) : Bool := r.found.isNone

def entries (r : SearchResult) : List Entry := r.found.getD []

/-- The answer to a query too short to be run. -/
def ofShort (raw : String) : SearchResult := ⟨Query.trimStart raw, "", some []⟩

end SearchResult

namespace Query.Prepared

/-- The answer found among the entries of the query's partition. -/
def answerIn (q : Prepared) (entries : List Entry) : SearchResult :=
  ⟨q.text, q.normalized, some (filterByKey entries q.normalized)⟩

/-- The answer when the partition cannot be had. -/
def unavailable (q : Prepared) : SearchResult := ⟨q.text, q.normalized, none⟩

/-- The answer that the load of the query's partition gives. -/
def answerOf (q : Prepared) : LoadResult → SearchResult
  | .loaded entries _ => q.answerIn entries
  | .failed _ => q.unavailable

end Query.Prepared

end DocIndex
