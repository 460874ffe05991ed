import DocIndex.Index.Basic
import DocIndex.Index.Request
import DocIndex.PartitionFile

/-! # Loading

A load is settled at once if the store knows the partition or the index is closed. Otherwise it
is done when its job ends: the job fetches and reads the file and tells the store, or it is
broken off by a fault.
-/

namespace DocIndex

/-- The error that reading a file ends with. -/
def PartitionFile.ReadError.toFault (e : PartitionFile.ReadError) : Fault := ⟨e.kind, e.message⟩

namespace Index

/-- The result of a load that needs no job, from what the store knows. -/
def settled? (x : Index) (p : Partition) : Option LoadResult :=
  match x.store.slot p with
  | .unknown => none
  | .loaded entries => some (.loaded entries 0)
  | .failed reason => some (.failed reason)

/-- What a load is told by a closed index. -/
def closedReason : String := "loader is closed"

/-- One more load, and its number. -/
def addLoad (x : Index) (l : Load) : Index × Nat :=
  ({ x with loads := x.loads ++ [l] }, x.loads.length)

/-- One more load that waits for a job of its own, and its number. -/
def enqueue (x : Index) (p : Partition) : Index × Nat :=
  let (x, i) := x.addLoad ⟨p, none⟩
  ({ x with
      queue := x.queue ++ [⟨p, i⟩]
      inFlight := fun q => if q = p then some i else x.inFlight q }, i)

/-- Asks for a partition, and gives the number of the load. -/
def load (x : Index) (p : Partition) : Index × Nat :=
  match x.settled? p with
  | some result => x.addLoad ⟨p, some (.ok result)⟩
  | none =>
    match x.inFlight p with
    | some i => (x, i)
    | none => if x.closed then x.addLoad ⟨p, some (.ok (.failed closedReason))⟩ else x.enqueue p

/-- Asks for partitions ahead of any query, and gives the numbers of the loads. -/
def warm (x : Index) : List Partition → Index × List Nat
  | [] => (x, [])
  | p :: rest =>
    let (x, i) := x.load p
    let (x, numbers) := x.warm rest
    (x, i :: numbers)

/-! ## Ends of jobs -/

variable [Literal.Reader]

/-- The end of a job: its load is done, and all searches that wait for it are answered. -/
def complete (x : Index) (job : Job) (outcome : Except Fault LoadResult) : Index :=
  { x with
    queue := x.queue.erase job
    inFlight := fun q => if q = job.partition then none else x.inFlight q
    loads := x.loads.modify job.load fun l => { l with outcome? := some outcome }
    searches := x.searches.map (Search.settle job.load outcome) }

/-- The file of a partition is asked for by name and read. -/
def requestFile (name : String) (p : Partition) :
    Request (Except Fault PartitionFile.Parsed) :=
  .ask name fun reply => .done <|
    reply.bind fun text => (PartitionFile.parse text (some p)).mapError (·.toFault)

/-- The file of a partition as it is fetched and read. -/
def readFile (fetch : String → Except Fault String) (name : String) (p : Partition) :
    Except Fault PartitionFile.Parsed :=
  ((requestFile name p).run fetch).2

theorem run_requestFile (fetch : String → Except Fault String) (name : String) (p : Partition) :
    (requestFile name p).run fetch = ([name], readFile fetch name p) := rfl

theorem readFile_eq (fetch : String → Except Fault String) (name : String) (p : Partition) :
    readFile fetch name p =
      (fetch name).bind fun text => (PartitionFile.parse text (some p)).mapError (·.toFault) := rfl

/-- What the store holds of `p` once its file has been read, and the result of the load. Entries
that are stored already stay, and are the result. -/
def note (s : Store) (p : Partition) : Except Fault PartitionFile.Parsed → Store × LoadResult
  | .ok parsed =>
    let s := (s.store p parsed.entries).1
    (s, .loaded ((s.entries? p).getD parsed.entries) parsed.dropped)
  | .error f => (s.markFailed p f.reason, .failed f.reason)

/-- Runs a job with the replies that `fetch` gives. -/
def runJob (x : Index) (job : Job) (fetch : String → Except Fault String) : Index :=
  let request := requestFile (job.partition.fileName x.sectionName) job.partition
  let (names, file) := request.run fetch
  let (store, result) := note x.store job.partition file
  { x with store, fetched := x.fetched ++ names }.complete job (.ok result)

/-- Runs the oldest job, or the oldest one for a given partition, and gives its partition. -/
def run (x : Index) (p? : Option Partition) (fetch : String → Except Fault String) :
    Index × Option Partition :=
  match x.nextJob? p? with
  | some job => (x.runJob job fetch, some job.partition)
  | none => (x, none)

/-- Breaks off the job for a partition with a fault, and says whether there was one. -/
def breakOff (x : Index) (p : Partition) (f : Fault) : Index × Bool :=
  match x.nextJob? (some p) with
  | some job => (x.complete job (.error f), true)
  | none => (x, false)

/-- Cancels the job for a partition, and says whether there was one. -/
def cancel (x : Index) (p : Partition) : Index × Bool := x.breakOff p .cancelled

end Index

end DocIndex
