import DocIndex.Entry
import DocIndex.Partition

/-! # The store

What is known of each partition: its entries, the reason why they could not be had, or neither.
Entries once stored stay; a reason stands until entries arrive or it is reset.
-/

namespace DocIndex

/-- What is known of every partition. -/
structure Store where
  /-- The entries of a partition, if they are stored. -/
  entries? : Partition → Option (List Entry)
  /-- The reason why a partition could not be had, if one stands. -/
  failure? : Partition → Option String

/-- What is known of one partition. -/
inductive Slot where
  | unknown
  | loaded (entries : List Entry)
  | failed (reason : String)
  deriving DecidableEq

namespace Store

/-- The store in which nothing is known. -/
def empty : Store := ⟨fun _ => none, fun _ => none⟩

/-- What is known of a partition. A reason counts only if there are no entries. -/
def slot (s : Store) (p : Partition) : Slot :=
  match s.entries? p, s.failure? p with
  | some entries, _ => .loaded entries
  | none, some reason => .failed reason
  | none, none => .unknown

/-- Stores the entries of a partition that has none, and says whether it did. The reason noted for
the partition is forgotten. -/
def store (s : Store) (p : Partition) (entries : List Entry) : Store × Bool :=
  match s.entries? p with
  | some _ => (s, false)
  | none =>
    ({ entries? := fun q => if q = p then some entries else s.entries? q
       failure? := fun q => if q = p then none else s.failure? q }, true)

/-- Notes why a partition could not be had, unless its entries are stored. -/
def markFailed (s : Store) (p : Partition) (reason : String) : Store :=
  match s.entries? p with
  | some _ => s
  | none => { s with failure? := fun q => if q = p then some reason else s.failure? q }

/-- Forgets the reason noted for a partition. -/
def reset (s : Store) (p : Partition) : Store :=
  { s with failure? := fun q => if q = p then none else s.failure? q }

def resetAll (s : Store) : Store := { s with failure? := fun _ => none }

/-- The partitions with stored entries, in the order of their tokens. -/
def loadedPartitions (s : Store) : List Partition :=
  Partition.inTokenOrder.filter fun p => (s.entries? p).isSome

/-- The standing reasons, in the order of the partitions. -/
def failures (s : Store) : List (Partition × String) :=
  Partition.all.filterMap fun p => (s.failure? p).map (p, ·)

end Store

end DocIndex
