import DocIndex.Index.Outcome
import DocIndex.Store

/-! # The index

An index fetches the partitions of one section as they are needed. A load that cannot be settled
at once queues a job; it stays in flight until the job ends, and all who ask for the partition
meanwhile share it. Loads and searches are numbered from zero in the order in which they begin.
-/

namespace DocIndex

/-- A load: its partition, and its outcome once it is done. -/
structure Load where
  partition : Partition
  outcome? : Option (Except Fault LoadResult)

/-- A search: it waits for a load, or has its answer. -/
inductive Search where
  | waiting (query : Query.Prepared) (load : Nat)
  | answered (outcome : Except Fault SearchResult)

namespace Search

def outcome? : Search → Option (Except Fault SearchResult)
  | waiting _ _ => none
  | answered outcome => some outcome

/-- The search after load number `load` has ended. -/
def settle (load : Nat) (outcome : Except Fault LoadResult) : Search → Search
  | waiting query i =>
    if i = load then answered (outcome.map query.answerOf) else waiting query i
  | answered outcome => answered outcome

end Search

/-- A queued job: the partition to fetch, and the number of its load. -/
structure Job where
  partition : Partition
  load : Nat
  deriving DecidableEq

structure Index where
  sectionName : String
  minLength : Int
  store : Store
  loads : List Load
  searches : List Search
  /-- The jobs that have not ended, the oldest first. -/
  queue : List Job
  /-- The load that is in flight for a partition. -/
  inFlight : Partition → Option Nat
  closed : Bool
  /-- The names of the files asked for, in order. -/
  fetched : List String

namespace Index

/-- An index in which nothing has been asked for. Queries have at least one character. -/
def empty (sectionName : String) (minLength : Int) : Index where
  sectionName
  minLength := max 1 minLength
  store := Store.empty
  loads := []
  searches := []
  queue := []
  inFlight _ := none
  closed := false
  fetched := []

/-- Whether the load of a partition is in flight. -/
def isLoading (x : Index) (p : Partition) : Bool := (x.inFlight p).isSome

/-- The outcome of a load, once it is done. -/
def loadOutcome? (x : Index) (i : Nat) : Option (Except Fault LoadResult) :=
  (x.loads[i]?).bind Load.outcome?

/-- The outcome of a search, once it is answered. -/
def searchOutcome? (x : Index) (i : Nat) : Option (Except Fault SearchResult) :=
  (x.searches[i]?).bind Search.outcome?

/-- The oldest job, or the oldest one for a given partition. -/
def nextJob? (x : Index) (p? : Option Partition) : Option Job :=
  x.queue.find? fun job =>
    match p? with
    | some p => job.partition == p
    | none => true

/-- Takes no more loads. Jobs in the queue stay. -/
def close (x : Index) : Index := { x with closed := true }

end Index

end DocIndex
