import DocIndex.Fault

/-! # Files that cannot be had -/

namespace DocIndex

/-- The report of a file that cannot be had, with a reason or with the error behind it. -/
structure FetchError where
  fileName : String
  reason : Option String
  cause : Option Fault
  deriving DecidableEq, Repr

/-- The reason is told if there is one, and else the error behind it. -/
def FetchError.message (e : FetchError) : String :=
  let reason := e.reason.getD ""
  let trouble := "Trouble fetching index partition " ++ e.fileName
  if reason ≠ "" then trouble ++ ": " ++ reason
  else match e.cause with
    | some cause => trouble ++ ": " ++ cause.message
    | none => trouble

/-- What ends a fetch: the file cannot be had, or the fetch itself breaks down. -/
inductive FetchFailure where
  | unavailable (e : FetchError)
  | broken (f : Fault)
  deriving DecidableEq, Repr

def FetchFailure.toFault : FetchFailure → Fault
  | unavailable e => ⟨Fault.fetchKind, e.message⟩
  | broken f => f

end DocIndex
