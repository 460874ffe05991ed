/-! # Faults

An error that ends a load or a search, as it reaches those who wait for it.
-/

namespace DocIndex

/-- An error by its kind and its message. -/
structure Fault where
  kind : String
  message : String
  deriving DecidableEq, Repr

namespace Fault

/-- What those who wait for a cancelled job are told. -/
def cancelled : Fault := ⟨"CancelledError", ""⟩

/-- The kind of error of a file that cannot be had. -/
def fetchKind : String := "PartitionFetchError"

/-- The kind of error of a file whose structure cannot be read. -/
def formatKind : String := "PartitionFormatError"

/-- The reason that a failed load gives. Errors of the two expected kinds speak for themselves;
before the message of any other stands its kind. -/
def reason (f : Fault) : String :=
  if f.kind = fetchKind ∨ f.kind = formatKind then f.message else f.kind ++ ": " ++ f.message

end Fault

end DocIndex
