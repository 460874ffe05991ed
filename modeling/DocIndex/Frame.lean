import DocIndex.Entry

/-! # Frames

A frame is what a search box shows at one moment.
-/

namespace DocIndex

/-- What a search box is doing. -/
inductive Phase where
  /-- There is no query. -/
  | idle
  /-- The query has just been changed. -/
  | debouncing
  /-- The query has been issued and not been answered. -/
  | loading
  /-- The answer is shown. -/
  | ready
  /-- There is no answer to be had. -/
  | error
  deriving DecidableEq, Repr

def Phase.name : Phase → String
  | idle => "idle"
  | debouncing => "debouncing"
  | loading => "loading"
  | ready => "ready"
  | error => "error"

/-- The query, its results, and which of them is selected, with which of its hits. -/
structure Frame where
  phase : Phase
  query : String
  results : List Entry
  selected : Int
  selectedHit : Int
  deriving DecidableEq

/-- The item at a place counted from zero, if there is one. -/
def itemAt? {α : Type} (items : List α) (place : Int) : Option α :=
  if 0 ≤ place then items[place.toNat]? else none

namespace Frame

/-- The selected entry, if results are shown. -/
def entry? (f : Frame) : Option Entry :=
  if f.phase = .ready then itemAt? f.results f.selected else none

/-- The selected hit of the selected entry. -/
def hit? (f : Frame) : Option Hit := f.entry?.bind fun e => itemAt? e.hits f.selectedHit

/-- Whether there is nothing to be shown for a query that has been issued. -/
def noMatches (f : Frame) : Bool := f.phase == .error || (f.phase == .ready && f.results.isEmpty)

end Frame

end DocIndex
