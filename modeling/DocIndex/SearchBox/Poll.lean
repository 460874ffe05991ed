import DocIndex.SearchBox.Basic

/-! # Polling

Only a poll issues a query and looks at outcomes. The engine that answers queries is a function
on a state of its own; what it does not answer at once is watched for.
-/

namespace DocIndex

/-- What an engine makes of a query: it fails, answers at once, or gives the number of a search
that will be answered. -/
inductive Reply where
  | raised
  | settled (outcome : Outcome)
  | pending (search : Nat)

/-- An engine with states `σ`. -/
abbrev Engine (σ : Type) := σ → String → σ × Reply

namespace SearchBox

variable {τ σ : Type}

def failed (b : SearchBox τ) : SearchBox τ × List Effect :=
  { b.withoutResults with active := none, phase := .error }.shown

/-! ## Outcomes -/

/-- The outcome of the active search. -/
def accept (b : SearchBox τ) (outcome : Outcome) : SearchBox τ × List Effect :=
  match outcome with
  | .error _ => b.failed
  | .ok result =>
    match result.found with
    | none => b.failed
    | some entries =>
      { b with active := none, phase := .ready, results := entries, selected := 0,
               selectedHit := 0 }.shown

/-- An outcome is looked at, and says whether it counted. -/
def apply (b : SearchBox τ) (c : Completion) : SearchBox τ × List Effect × Bool :=
  if b.active = some c.ticket then
    let (b, effects) := b.accept c.outcome
    (b, effects, true)
  else (b, [], false)

/-- Outcomes are looked at in turn. -/
def applyAll (b : SearchBox τ) : List Completion → SearchBox τ × List Effect × Bool
  | [] => (b, [], false)
  | c :: rest =>
    let (b, first, changed) := b.apply c
    let (b, others, changedLater) := b.applyAll rest
    (b, first ++ others, changed || changedLater)

/-- All outcomes that have come in are looked at. -/
def drain (b : SearchBox τ) : SearchBox τ × List Effect × Bool :=
  { b with completions := [] }.applyAll b.completions

/-- The oldest outcome is looked at, if one has come in. -/
def takeOne (b : SearchBox τ) : SearchBox τ × List Effect × Bool :=
  match b.completions with
  | [] => (b, [], false)
  | c :: rest => { b with completions := rest }.apply c

/-- The outcomes of watched searches that have become known come in, in the order in which the
searches were issued. -/
def collect (b : SearchBox τ) (outcome? : Nat → Option Outcome) : SearchBox τ :=
  { b with
    completions := b.completions ++
      b.watches.filterMap fun w => (outcome? w.search).map fun o => ⟨w.ticket, o⟩
    watches := b.watches.filter fun w => (outcome? w.search).isNone }

/-- The outcome of one search comes in. -/
def finish (b : SearchBox τ) (search : Nat) (outcome : Outcome) : SearchBox τ :=
  b.collect fun i => if i = search then some outcome else none

/-! ## Issuing -/

/-- The box with its query issued under a new ticket. -/
def begun (b : SearchBox τ) : SearchBox τ :=
  { b with issued := b.issued + 1, active := some (b.issued + 1), phase := .loading,
           deadline := none }

def replied (b : SearchBox τ) : Reply → SearchBox τ × List Effect
  | .raised => b.failed
  | .settled outcome => ({ b with completions := b.completions ++ [⟨b.issued, outcome⟩] }, [])
  | .pending search => ({ b with watches := b.watches ++ [⟨search, b.issued⟩] }, [])

def issue (b : SearchBox τ) (engine : Engine σ) (s : σ) : σ × SearchBox τ × List Effect :=
  let (b, loading) := b.begun.shown
  let (s, reply) := engine s b.query
  let (b, effects) := b.replied reply
  (s, b, loading ++ effects)

/-- Whether the query is to be issued at time `now`. -/
def isDue [LE τ] [DecidableLE τ] (b : SearchBox τ) (now : τ) : Bool :=
  b.phase == .debouncing && b.deadline.any fun deadline => decide (deadline ≤ now)

/-! ## The poll -/

/-- What a poll leaves behind, and whether anything changed. -/
structure Polled (σ τ : Type) where
  engine : σ
  box : SearchBox τ
  effects : List Effect
  changed : Bool

/-- A due query is issued, then outcomes are looked at. A box that is loading first waits up to
`timeout` for an outcome, if that is a time at all. -/
def poll [Zero τ] [LT τ] [DecidableLT τ] [LE τ] [DecidableLE τ] (b : SearchBox τ)
    (engine : Engine σ) (s : σ) (now timeout : τ) : Polled σ τ :=
  let due := b.isDue now
  let (s, b, issuing) := if due then b.issue engine s else (s, b, [])
  let (b, waiting, first) :=
    if 0 < timeout ∧ b.phase = .loading then b.takeOne else (b, [], false)
  let (b, draining, others) := b.drain
  ⟨s, b, issuing ++ waiting ++ draining, due || first || others⟩

end SearchBox

end DocIndex
