import DocIndex.Proofs.SearchBox.Display
import Mathlib.Algebra.GroupWithZero.Nat

/-! # Quiescence

A box that waits neither for time to pass nor for an answer stays as it is until its query is
changed or a key is pressed. Polls do nothing and say so, and searches that end late are not seen.
-/

namespace DocIndex.SearchBox

variable {τ σ : Type} {b : SearchBox τ}

/-! ## Boxes at rest -/

/-- A box at rest has no query to issue, and no outcome counts. -/
structure Resting (b : SearchBox τ) : Prop where
  phase : b.phase ≠ .debouncing
  active : b.active = none

namespace Resting

theorem withInbox (h : Resting b) (completions : List Completion) (watches : List Watch) :
    Resting { b with completions, watches } := ⟨h.phase, h.active⟩

theorem isDue [LE τ] [DecidableLE τ] (h : Resting b) (now : τ) : b.isDue now = false := by
  simp [SearchBox.isDue, h.phase]

theorem decisive? (h : Resting b) : b.decisive? = none := by
  refine List.find?_eq_none.mpr fun c _ => ?_
  simp [awaits, h.active]

theorem drain (h : Resting b) : b.drain = (b.withCompletions [], [], false) := by
  rw [drain_eq_decided, h.decisive?]
  rfl

/-- A poll of a box at rest only throws away the outcomes that have come in. -/
theorem poll [Zero τ] [LT τ] [DecidableLT τ] [LE τ] [DecidableLE τ] (h : Resting b)
    (engine : Engine σ) (s : σ) (now timeout : τ) :
    b.poll engine s now timeout = ⟨s, b.withCompletions [], [], false⟩ := by
  rw [poll_eq_drain, issueDue, h.isDue now]
  simp [h.drain]

end Resting

theorem hasPendingWork_eq_false :
    b.hasPendingWork = false ↔ b.phase ≠ .debouncing ∧ b.phase ≠ .loading := by
  simp [hasPendingWork]

theorem Coherent.resting (h : Coherent b) (hnone : b.hasPendingWork = false) : Resting b := by
  obtain ⟨hdebouncing, hloading⟩ := hasPendingWork_eq_false.mp hnone
  exact ⟨hdebouncing, h.active.trans (if_neg hloading)⟩

/-! ## Runs -/

/-- Whether an event leaves the query and the keys alone: a poll, at any time, or the end of a
search. -/
def Event.isPassive : Event τ → Bool
  | .poll _ _ _ | .finish _ _ => true
  | .setQuery _ _ | .clear _ | .press _ _ | .activate => false

namespace Run

/-- From `r` to `later` nothing has been shown and the engine has not been called. The boxes differ
in the outcomes that have come in and the searches that are watched, and in nothing else. -/
structure Unmoved (r later : Run τ) : Prop where
  box : ∃ completions watches, later.box = { r.box with completions, watches }
  effects : later.effects = r.effects
  calls : later.ledger.calls = r.ledger.calls

theorem Unmoved.refl (r : Run τ) : Unmoved r r := ⟨⟨_, _, rfl⟩, rfl, rfl⟩

theorem Unmoved.resting {r later : Run τ} (h : Unmoved r later) (hrest : Resting r.box) :
    Resting later.box := by
  obtain ⟨completions, watches, hbox⟩ := h.box
  rw [hbox]
  exact hrest.withInbox completions watches

variable [Zero τ] [Add τ] [LT τ] [DecidableLT τ] [LE τ] [DecidableLE τ]

theorem Unmoved.step {r later : Run τ} (h : Unmoved r later) (hrest : Resting r.box)
    {e : Event τ} (he : e.isPassive = true) : Unmoved r (later.step e) := by
  obtain ⟨completions, watches, hbox⟩ := h.box
  cases e with
  | poll now timeout reply =>
      rw [Run.step, (h.resting hrest).poll]
      refine ⟨⟨[], watches, ?_⟩, ?_, h.calls⟩
      · dsimp only
        rw [hbox]
        rfl
      · rw [← h.effects]
        exact List.append_nil _
  | finish search outcome =>
      rw [Run.step]
      split
      · exact h
      · refine ⟨?_, h.effects, h.calls⟩
        rw [hbox]
        exact ⟨_, _, rfl⟩
  | setQuery _ _ | clear _ | press _ _ | activate => cases he

theorem Unmoved.after {r later : Run τ} (h : Unmoved r later) (hrest : Resting r.box)
    {events : List (Event τ)} (hpassive : ∀ e ∈ events, e.isPassive = true) :
    Unmoved r (later.after events) := by
  induction events generalizing later with
  | nil => exact h
  | cons e events ih =>
      obtain ⟨he, hevents⟩ := List.forall_mem_cons.mp hpassive
      exact ih (h.step hrest he) hevents

/-- However often and whenever the box is polled, and whatever searches end in between, nothing
happens. -/
structure Quiescent (r : Run τ) : Prop where
  /-- The phase, the query, the results, the selection, the deadline and the tickets stay. Nothing
  is shown, and the engine is not called. -/
  unmoved : ∀ events : List (Event τ), (∀ e ∈ events, e.isPassive = true) →
    Unmoved r (r.after events)
  /-- Each poll on the way says that nothing has changed, whatever the engine. -/
  poll : ∀ events : List (Event τ), (∀ e ∈ events, e.isPassive = true) →
    ∀ {σ : Type} (engine : Engine σ) (s : σ) (now timeout : τ),
      let polled := (r.after events).box.poll engine s now timeout
      polled.changed = false ∧ polled.effects = [] ∧ polled.engine = s

/-- After any run, a box without pending work is quiescent. -/
theorem after_quiescent (debounce : τ) (events : List (Event τ))
    (hnone : ((start debounce).after events).box.hasPendingWork = false) :
    Quiescent ((start debounce).after events) := by
  have hcoherent : Coherent ((start debounce).after events).box :=
    after_induction (motive := fun r => Coherent r.box) (.start debounce) step_coherent events
  have hrest := hcoherent.resting hnone
  refine ⟨fun more hpassive => (Unmoved.refl _).after hrest hpassive,
    fun more hpassive σ engine s now timeout => ?_⟩
  rw [(((Unmoved.refl _).after hrest hpassive).resting hrest).poll]
  exact ⟨rfl, rfl, rfl⟩

/-- A run that ends in an error while an older search is still watched. -/
def raisedEvents : List (Event Nat) :=
  [.setQuery 0 "a", .poll 3 0 (.pending 0), .setQuery 4 "ab", .poll 9 0 .raised]

theorem after_quiescent_raised :
    ((start 3).after raisedEvents).box.watches = [⟨0, 1⟩] ∧
      Quiescent ((start 3).after raisedEvents) := by
  have hnone : ((start 3).after raisedEvents).box.hasPendingWork = false := by decide +kernel
  exact ⟨by decide +kernel, after_quiescent 3 raisedEvents hnone⟩

end Run

end DocIndex.SearchBox
