import DocIndex.Proofs.SearchBox.Accounting
import DocIndex.Proofs.SearchBox.Selecting

/-! # Staleness

Whatever the engine makes of its calls and in whatever order searches end, a box shows results
and errors of the last call only, and only while its query has not been changed since.
-/

namespace DocIndex.SearchBox

variable {τ : Type}

namespace Accounted

variable {b : SearchBox τ} {l : Ledger τ}

theorem finish (h : Accounted b l) {search : Nat} (hopen : l.answers search = none)
    (outcome : Outcome) :
    Accounted (b.finish search outcome) (l.answer search outcome) := by
  have hgrow : ∀ i o, l.answers i = some o → (l.answer search outcome).answers i = some o := by
    intro i o hi
    rw [Ledger.answer]
    dsimp only
    split
    · rename_i heq
      rw [heq, hopen] at hi
      cases hi
    · exact hi
  apply (h.answers hgrow).collect
  intro i o hi
  split at hi
  · rename_i heq
    rw [← hi]
    exact if_pos heq
  · cases hi

/-- No outcome has a ticket that has not been issued. -/
theorem ticket_le (h : Accounted b l) : ∀ c ∈ b.completions, c.ticket ≤ b.issued := by
  intro c hc
  obtain ⟨k, call, hticket, hcall, -⟩ := h.completion c hc
  have hplace := (List.getElem?_eq_some_iff.mp hcall).1
  have hissued := h.issued
  omega

end Accounted

variable [Zero τ] [Add τ] [LT τ] [DecidableLT τ] [LE τ] [DecidableLE τ]

namespace Run

/-! ## Steps -/

theorem step_escape (r : Run τ) (now : τ) :
    r.step (.press now .escape) =
      if r.box.phase = .idle ∧ r.box.query = "" then r
      else r.edited now "" (r.box.clear now) := by
  by_cases h : r.box.phase = .idle ∧ r.box.query = ""
  · simp [step, press_escape, h]
  · simp [step, press_escape, h, edited]

theorem step_press (r : Run τ) (now : τ) {key : Press} (h : key ≠ .escape) :
    ∃ i j effects, r.step (.press now key) =
      ⟨{ r.box with selected := i, selectedHit := j }, r.ledger, effects⟩ := by
  obtain ⟨i, j, hbox⟩ := press_selects r.box now h
  refine ⟨i, j, r.effects ++ (r.box.press now key).2.1, ?_⟩
  rw [step, ← hbox]
  simp [h]

/-- The ledger after a poll: the call is noted if the query was due. -/
theorem step_poll_ledger (r : Run τ) (now timeout : τ) (reply : Reply) :
    (r.step (.poll now timeout reply)).ledger =
      if r.box.isDue now
      then r.ledger.call ⟨r.box.query, reply, now, r.ledger.edits.length⟩
      else r.ledger :=
  poll_engine (engine now reply) r.ledger now timeout

/-! ## The invariant -/

theorem step_accounted (r : Run τ) (e : Event τ) (h : Accounted r.box r.ledger) :
    Accounted (r.step e).box (r.step e).ledger := by
  cases e with
  | setQuery now text => exact h.setQuery now text
  | clear now => exact h.setQuery now ""
  | press now key =>
      by_cases hkey : key = .escape
      · subst hkey
        rw [step_escape]
        split
        · exact h
        · exact h.setQuery now ""
      · obtain ⟨i, j, effects, hstep⟩ := step_press r now hkey
        rw [hstep]
        exact h.select i j
  | activate => exact h
  | poll now timeout reply =>
      rw [step_poll_ledger]
      cases hdue : r.box.isDue now with
      | true => exact h.poll_due timeout hdue rfl rfl rfl
      | false => exact h.poll_not_due _ _ timeout hdue
  | finish search outcome =>
      rw [step]
      split
      · exact h
      · rename_i hopen
        exact h.finish hopen outcome

theorem after_accounted (debounce : τ) (events : List (Event τ)) :
    Accounted ((start debounce).after events).box ((start debounce).after events).ledger :=
  after_induction (Accounted.start debounce) step_accounted events

/-! ## What is shown -/

/-- The end of a search is not seen before the next poll. -/
theorem step_finish (r : Run τ) (search : Nat) (outcome : Outcome) :
    (r.step (.finish search outcome)).box.frame = r.box.frame ∧
      (r.step (.finish search outcome)).box.issued = r.box.issued ∧
      (r.step (.finish search outcome)).effects = r.effects := by
  rw [step]
  split
  · exact ⟨rfl, rfl, rfl⟩
  · exact ⟨rfl, rfl, rfl⟩

/-- What is shown comes from the last call of the engine, and outcomes of other searches make no
difference. -/
structure ShowsLastCall (r : Run τ) : Prop where
  /-- Results are those of the last call, made with the query that is shown and not before the
  last change of the query. -/
  ready : r.box.phase = .ready → ∃ call result, r.ledger.calls.getLast? = some call ∧
    call.query = r.box.query ∧ call.edits = r.ledger.edits.length ∧
    call.outcome? r.ledger.answers = some (.ok result) ∧ result.found = some r.box.results
  /-- An error is that of the last call. -/
  error : r.box.phase = .error → ∃ call, r.ledger.calls.getLast? = some call ∧
    call.query = r.box.query ∧ (call.reply = .raised ∨
      ∃ outcome, call.outcome? r.ledger.answers = some outcome ∧ Fails outcome)
  /-- No outcome is seen when it comes in. -/
  finish : ∀ search outcome, (r.step (.finish search outcome)).box.frame = r.box.frame ∧
    (r.step (.finish search outcome)).box.issued = r.box.issued ∧
    (r.step (.finish search outcome)).effects = r.effects
  /-- A poll goes as if no outcomes of searches other than the active one had come in. -/
  poll : ∀ now timeout reply,
    { r with box := r.box.awaitedOnly }.step (.poll now timeout reply) =
      r.step (.poll now timeout reply)

/-- Whatever the engine makes of its calls and in whatever order searches end, the box shows what
comes from the last call. -/
theorem after_shows_last_call (debounce : τ) (events : List (Event τ)) :
    ShowsLastCall ((start debounce).after events) := by
  have h := after_accounted debounce events
  refine ⟨fun hready => ?_, fun herror => ?_, step_finish _, fun now timeout reply => ?_⟩
  · obtain ⟨call, result, ⟨hlast, hquery, hedits⟩, houtcome, hfound⟩ := h.ready hready
    exact ⟨call, result, hlast, hquery, hedits, houtcome, hfound⟩
  · obtain ⟨call, ⟨hlast, hquery, -⟩, hfails⟩ := h.error herror
    exact ⟨call, hlast, hquery, hfails⟩
  · rw [step, step, poll_awaitedOnly _ _ _ _ h.ticket_le]

end Run

end DocIndex.SearchBox
