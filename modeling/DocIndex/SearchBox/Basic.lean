import DocIndex.Frame
import DocIndex.Index.Outcome

/-! # The search box

A search box issues its query once the query has stood for a while, shows the answer, and lets
one of the results be selected. Each search it issues has a ticket, counted from one; an answer
counts only if its ticket is that of the active search. Time is any type with an order and an
addition.
-/

namespace DocIndex

/-- An answer, or the fault that took its place. -/
abbrev Outcome := Except Fault SearchResult

/-- An outcome that has come in, with the ticket of its search. -/
structure Completion where
  ticket : Nat
  outcome : Outcome

/-- A search that has been issued and has no outcome yet: its number and its ticket. -/
structure Watch where
  search : Nat
  ticket : Nat
  deriving DecidableEq, Repr

/-- What a search box asks of its surroundings. -/
inductive Effect where
  | render (frame : Frame)
  | navigate (anchor : String)
  deriving DecidableEq

structure SearchBox (τ : Type) where
  /-- How long a query must stand before it is issued. -/
  debounce : τ
  phase : Phase
  query : String
  results : List Entry
  selected : Int
  selectedHit : Int
  /-- When the query is to be issued. -/
  deadline : Option τ
  /-- The number of searches issued, which is the latest ticket. -/
  issued : Nat
  /-- The ticket whose answer is awaited. -/
  active : Option Nat
  /-- The outcomes not yet looked at, the oldest first. -/
  completions : List Completion
  /-- The searches without an outcome, the oldest first. -/
  watches : List Watch

namespace SearchBox

variable {τ : Type}

/-- An empty search box. A delay below zero is none. -/
def start [Zero τ] [LT τ] [DecidableLT τ] (debounce : τ) : SearchBox τ where
  debounce := if 0 < debounce then debounce else 0
  phase := .idle
  query := ""
  results := []
  selected := 0
  selectedHit := 0
  deadline := none
  issued := 0
  active := none
  completions := []
  watches := []

def frame (b : SearchBox τ) : Frame := ⟨b.phase, b.query, b.results, b.selected, b.selectedHit⟩

/-- Whether the box waits for time to pass or for an answer. -/
def hasPendingWork (b : SearchBox τ) : Bool := b.phase == .debouncing || b.phase == .loading

/-- How long it is until the query is to be issued, if it is to be. -/
def untilDeadline? [Zero τ] [Sub τ] [LT τ] [DecidableLT τ] (b : SearchBox τ) (now : τ) :
    Option τ :=
  if b.phase = .debouncing then
    b.deadline.map fun deadline => if 0 < deadline - now then deadline - now else 0
  else none

def withoutResults (b : SearchBox τ) : SearchBox τ :=
  { b with results := [], selected := 0, selectedHit := 0 }

/-- The box, which is to be shown anew. -/
def shown (b : SearchBox τ) : SearchBox τ × List Effect := (b, [.render b.frame])

/-! ## The query -/

/-- The query is changed at time `now`. What was active no longer counts. -/
def setQuery [Add τ] (b : SearchBox τ) (now : τ) (text : String) : SearchBox τ × List Effect :=
  let b := { b.withoutResults with query := text, active := none }
  if Query.trimStart text = "" then { b with phase := .idle, deadline := none }.shown
  else { b with phase := .debouncing, deadline := some (now + b.debounce) }.shown

def clear [Add τ] (b : SearchBox τ) (now : τ) : SearchBox τ × List Effect := b.setQuery now ""

/-! ## The selection -/

/-- The place next to `place` in a list of `count` items, `step` being one or minus one. -/
def move (count : Nat) (place step : Int) : Int := max 0 (min (count - 1) (place + step))

/-- Another entry is selected, with its first hit. -/
def moveEntry (b : SearchBox τ) (step : Int) : SearchBox τ × List Effect :=
  let place := move b.results.length b.selected step
  if place = b.selected then (b, []) else { b with selected := place, selectedHit := 0 }.shown

/-- Another hit of the selected entry is selected. -/
def moveHit (b : SearchBox τ) (step : Int) : SearchBox τ × List Effect :=
  match itemAt? b.results b.selected with
  | none => (b, [])
  | some e =>
    let place := move e.hits.length b.selectedHit step
    if place = b.selectedHit then (b, []) else { b with selectedHit := place }.shown

def activate (b : SearchBox τ) : List Effect × Option String :=
  match b.frame.hit? with
  | some hit => ([.navigate hit.anchor], some hit.anchor)
  | none => ([], none)

/-! ## Keys -/

inductive Press where
  | escape
  | up
  | down
  | left
  | right
  | enter
  | other
  deriving DecidableEq, Repr

def Press.ofName (name : String) : Press :=
  if name = "ESC" then escape
  else if name = "UP" then up
  else if name = "DOWN" then down
  else if name = "LEFT" then left
  else if name = "RIGHT" then right
  else if name = "ENTER" then enter
  else other

/-- A key is pressed, and says whether it was of use. The escape key clears the query; the others
need results. -/
def press [Add τ] (b : SearchBox τ) (now : τ) (key : Press) : SearchBox τ × List Effect × Bool :=
  let moved (next : SearchBox τ × List Effect) : SearchBox τ × List Effect × Bool :=
    (next.1, next.2, true)
  if key = .escape then
    if b.phase = .idle ∧ b.query = "" then (b, [], false) else moved (b.clear now)
  else if b.phase ≠ .ready ∨ b.results.isEmpty then (b, [], false)
  else match key with
    | .up => moved (b.moveEntry (-1))
    | .down => moved (b.moveEntry 1)
    | .left => moved (b.moveHit (-1))
    | .right => moved (b.moveHit 1)
    | .enter => moved (b, b.activate.1)
    | .escape | .other => (b, [], false)

end SearchBox

end DocIndex
