import DocIndex.Index.Search
import DocIndex.SearchBox.Poll

/-! # Sessions

A session joins a search box to an index: the index answers what the box issues, and the ends of
jobs reach the box as outcomes.
-/

namespace DocIndex

structure Session (τ : Type) where
  index : Index
  box : SearchBox τ
  /-- How often the session has been closed. -/
  closings : Nat

/-- The index as an engine. Queries hold no lone surrogates: the key of one that does cannot be
spelt, and asking for it fails before there is a search. -/
def Index.engine : Engine Index := fun x query =>
  let (x, i) := x.search query
  (x, match x.searchOutcome? i with
    | some outcome => .settled outcome
    | none => .pending i)

namespace Session

variable {τ : Type}

def start [Zero τ] [LT τ] [DecidableLT τ] (sectionName : String) (minLength : Int)
    (debounce : τ) : Session τ :=
  ⟨Index.empty sectionName minLength, SearchBox.start debounce, 0⟩

/-! ## The box -/

def setQuery [Add τ] (s : Session τ) (now : τ) (text : String) : Session τ × List Effect :=
  let (box, effects) := s.box.setQuery now text
  ({ s with box }, effects)

def clear [Add τ] (s : Session τ) (now : τ) : Session τ × List Effect := s.setQuery now ""

def press [Add τ] (s : Session τ) (now : τ) (key : SearchBox.Press) :
    Session τ × List Effect × Bool :=
  let (box, effects, used) := s.box.press now key
  ({ s with box }, effects, used)

def poll [Zero τ] [LT τ] [DecidableLT τ] [LE τ] [DecidableLE τ] (s : Session τ)
    (now timeout : τ) : Session τ × List Effect × Bool :=
  let polled := s.box.poll Index.engine s.index now timeout
  ({ s with index := polled.engine, box := polled.box }, polled.effects, polled.changed)

/-! ## The index -/

/-- The session with a changed index. Searches answered by the change reach the box. -/
def withIndex (s : Session τ) (x : Index) : Session τ :=
  { s with index := x, box := s.box.collect x.searchOutcome? }

/-- Runs a job of the index. -/
def run [Literal.Reader] (s : Session τ) (p? : Option Partition)
    (fetch : String → Except Fault String) :
    Session τ × Option Partition :=
  let (x, p?) := s.index.run p? fetch
  (s.withIndex x, p?)

/-- Breaks off a job of the index. -/
def breakOff (s : Session τ) (p : Partition) (f : Fault) : Session τ × Bool :=
  let (x, found) := s.index.breakOff p f
  (s.withIndex x, found)

/-- Asks for partitions ahead of any query. -/
def warm (s : Session τ) (ps : List Partition) : Session τ × List Nat :=
  let (x, numbers) := s.index.warm ps
  ({ s with index := x }, numbers)

/-- Forgets why a partition, or any partition, could not be had. -/
def reset (s : Session τ) (p? : Option Partition) : Session τ :=
  let store := match p? with
    | some p => s.index.store.reset p
    | none => s.index.store.resetAll
  { s with index := { s.index with store } }

def close (s : Session τ) : Session τ :=
  { s with index := s.index.close, closings := s.closings + 1 }

end Session

end DocIndex
