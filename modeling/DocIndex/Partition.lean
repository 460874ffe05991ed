import DocIndex.Key

/-! # Partitions

The index is cut by the first character of the key: each letter and each digit has a partition
of its own, and all other keys, which begin with an underscore, share the fallback partition.
-/

namespace DocIndex

/-- The first characters with partitions of their own, in the order of the partitions. -/
def Partition.alphabet : List Char := "0123456789abcdefghijklmnopqrstuvwxyz".toList

/-- The tokens that name partitions; the fallback's comes last. -/
def Partition.tokens : List Char := Partition.alphabet ++ ['_']

/-- A partition, named by its token. -/
structure Partition where
  token : Char
  token_mem : token ∈ Partition.tokens
  deriving DecidableEq

namespace Partition

/-- The partition of all keys that begin neither with a letter nor with a digit. -/
def fallback : Partition := ⟨'_', by simp [tokens]⟩

def isFallback (p : Partition) : Bool := p.token == '_'

/-- The partition named by a text of one token. -/
def ofToken? (token : String) : Option Partition :=
  match token.toList with
  | [c] => if h : c ∈ tokens then some ⟨c, h⟩ else none
  | _ => none

/-- What is said of a text that names no partition. -/
def unknownToken (token : String) : String := "unknown partition token " ++ Text.quote token

/-- The partition whose keys begin with `c`. -/
def ofFirst (c : Char) : Partition :=
  if h : c ∈ alphabet then ⟨c, List.mem_append_left _ h⟩ else fallback

def ofKey (key : String) : Partition :=
  match key.toList with
  | [] => fallback
  | c :: _ => ofFirst c

/-- The partition that can hold the matches of a query, found from its first character. -/
def ofQuery (query : String) : Partition :=
  match query.toList with
  | [] => fallback
  | c :: _ => ofKey (Key.normalize c.toString)

/-- All partitions, the fallback last. -/
def all : List Partition := tokens.attach.map fun ⟨c, h⟩ => ⟨c, h⟩

/-- All partitions in the order of their tokens' code points. -/
def inTokenOrder : List Partition := all.mergeSort fun p q => decide (p.token ≤ q.token)

/-- The section of the index that is searched unless another is chosen. -/
def defaultSection : String := "all"

/-- The name of the partition's file in a section of the index. -/
def fileName (p : Partition) (sectionName : String) : String :=
  sectionName ++ "_" ++ p.token.toString ++ ".js"

end Partition

end DocIndex
