import DocIndex.Proofs.Index.Provenance
import DocIndex.Session

/-! # Runs of a session

A run is any sequence of changes of the query, keys, polls, loads ahead of queries, resets of
failures, and jobs that are run or broken off, with any clock readings. Each job that is run finds
the files as they are served at that time. The fetches are kept beside the session.
-/

namespace DocIndex.Session

variable {τ : Type}

/-- What may happen to a session. -/
inductive Event (τ : Type) where
  | setQuery (now : τ) (text : String)
  | clear (now : τ)
  | press (now : τ) (key : SearchBox.Press)
  | poll (now timeout : τ)
  | warm (ps : List Partition)
  | reset (p? : Option Partition)
  | run (p? : Option Partition) (fetch : String → Except Fault String)
  | breakOff (p : Partition) (f : Fault)
  | close

/-- A session with the fetches of its jobs, the oldest first. -/
structure Run (τ : Type) where
  session : Session τ
  fetches : List Index.Fetch

/-- The fetches of the next job, if there is one. -/
def nextFetch (x : Index) (p? : Option Partition) (fetch : String → Except Fault String) :
    List Index.Fetch :=
  match x.nextJob? p? with
  | some job =>
    let name := job.partition.fileName x.sectionName
    [⟨name, fetch name⟩]
  | none => []

namespace Run

def start [Zero τ] [LT τ] [DecidableLT τ] (sectionName : String) (minLength : Int)
    (debounce : τ) : Run τ :=
  ⟨Session.start sectionName minLength debounce, []⟩

variable [Literal.Reader] [Zero τ] [Add τ] [LT τ] [DecidableLT τ] [LE τ] [DecidableLE τ]

def step (r : Run τ) : Event τ → Run τ
  | .setQuery now text => { r with session := (r.session.setQuery now text).1 }
  | .clear now => { r with session := (r.session.clear now).1 }
  | .press now key => { r with session := (r.session.press now key).1 }
  | .poll now timeout => { r with session := (r.session.poll now timeout).1 }
  | .warm ps => { r with session := (r.session.warm ps).1 }
  | .reset p? => { r with session := r.session.reset p? }
  | .run p? fetch =>
    ⟨(r.session.run p? fetch).1, r.fetches ++ nextFetch r.session.index p? fetch⟩
  | .breakOff p f => { r with session := (r.session.breakOff p f).1 }
  | .close => { r with session := r.session.close }

def after (r : Run τ) (events : List (Event τ)) : Run τ := events.foldl step r

/-- What each event preserves holds after all events. -/
theorem after_induction {motive : Run τ → Prop} {r : Run τ} (hstart : motive r)
    (hstep : ∀ r e, motive r → motive (step r e)) (events : List (Event τ)) :
    motive (r.after events) :=
  List.foldlRecOn events step hstart fun r hr e _ => hstep r e hr

end Run

end DocIndex.Session
