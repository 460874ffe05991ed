import DocIndex.SearchBox.Poll

/-! # Runs of a search box

A run is any sequence of changes of the query, keys, polls and ends of searches, with any clock
readings. The engine may make of each call what it likes, and a search may end at any time after
or before the box watches for it. What happened is kept in a ledger beside the box.
-/

namespace DocIndex.SearchBox

/-! ## The ledger -/

/-- A change of the query. -/
structure Edit (τ : Type) where
  query : String
  time : τ

/-- A call of the engine: its query, what the engine made of it, when it was made, and how many
changes of the query came before it. -/
structure Call (τ : Type) where
  query : String
  reply : Reply
  time : τ
  edits : Nat

/-- What has happened around a search box, the oldest first, and the outcomes of the searches
that have ended. -/
structure Ledger (τ : Type) where
  edits : List (Edit τ)
  calls : List (Call τ)
  answers : Nat → Option Outcome

/-- The outcome of a call, once there is one. -/
def Call.outcome? {τ : Type} (call : Call τ) (answers : Nat → Option Outcome) : Option Outcome :=
  match call.reply with
  | .raised => none
  | .settled outcome => some outcome
  | .pending search => answers search

/-- What a box makes of a reply: a search that has ended is as good as an answer. -/
def resolve (answers : Nat → Option Outcome) : Reply → Reply
  | .pending search =>
    match answers search with
    | some outcome => .settled outcome
    | none => .pending search
  | reply => reply

variable {τ : Type}

namespace Ledger

def empty : Ledger τ := ⟨[], [], fun _ => none⟩

def edit (l : Ledger τ) (query : String) (time : τ) : Ledger τ :=
  { l with edits := l.edits ++ [⟨query, time⟩] }

def call (l : Ledger τ) (c : Call τ) : Ledger τ := { l with calls := l.calls ++ [c] }

def answer (l : Ledger τ) (search : Nat) (outcome : Outcome) : Ledger τ :=
  { l with answers := fun i => if i = search then some outcome else l.answers i }

end Ledger

/-! ## Events -/

/-- What may happen to a search box. Each event that reads the clock brings its own reading, and
each poll brings the reply that the engine gives if it is called. -/
inductive Event (τ : Type) where
  | setQuery (now : τ) (text : String)
  | clear (now : τ)
  | press (now : τ) (key : Press)
  | activate
  | poll (now timeout : τ) (reply : Reply)
  | finish (search : Nat) (outcome : Outcome)

/-- A search box with its ledger and the effects it has had. -/
structure Run (τ : Type) where
  box : SearchBox τ
  ledger : Ledger τ
  effects : List Effect

namespace Run

def start [Zero τ] [LT τ] [DecidableLT τ] (debounce : τ) : Run τ :=
  ⟨SearchBox.start debounce, Ledger.empty, []⟩

/-- The run after an operation that changes the query. -/
def edited (r : Run τ) (now : τ) (text : String) (after : SearchBox τ × List Effect) : Run τ :=
  ⟨after.1, r.ledger.edit text now, r.effects ++ after.2⟩

/-- An engine that gives one reply and notes its calls in the ledger. -/
def engine (now : τ) (reply : Reply) : Engine (Ledger τ) := fun l query =>
  (l.call ⟨query, reply, now, l.edits.length⟩, resolve l.answers reply)

variable [Zero τ] [Add τ] [LT τ] [DecidableLT τ] [LE τ] [DecidableLE τ]

def step (r : Run τ) : Event τ → Run τ
  | .setQuery now text => r.edited now text (r.box.setQuery now text)
  | .clear now => r.edited now "" (r.box.clear now)
  | .press now key =>
    let (box, effects, used) := r.box.press now key
    if key = .escape ∧ used then r.edited now "" (box, effects)
    else { r with box, effects := r.effects ++ effects }
  | .activate => { r with effects := r.effects ++ r.box.activate.1 }
  | .poll now timeout reply =>
    let polled := r.box.poll (engine now reply) r.ledger now timeout
    ⟨polled.box, polled.engine, r.effects ++ polled.effects⟩
  | .finish search outcome =>
    match r.ledger.answers search with
    | some _ => r
    | none => ⟨r.box.finish search outcome, r.ledger.answer search outcome, r.effects⟩

theorem step_press_eq (r : Run τ) (now : τ) (key : Press) :
    (r.step (.press now key)).box = (r.box.press now key).1 ∧
      (r.step (.press now key)).effects = r.effects ++ (r.box.press now key).2.1 := by
  rw [step]
  dsimp only
  split
  · exact ⟨rfl, rfl⟩
  · exact ⟨rfl, rfl⟩

def after (r : Run τ) (events : List (Event τ)) : Run τ := events.foldl step r

/-- What each event preserves holds after all events. -/
theorem after_induction {motive : Run τ → Prop} {r : Run τ} (hstart : motive r)
    (hstep : ∀ r e, motive r → motive (step r e)) (events : List (Event τ)) :
    motive (r.after events) :=
  List.foldlRecOn events step hstart fun r hr e _ => hstep r e hr

end Run

end DocIndex.SearchBox
