import DocIndex.Proofs.SearchBox.Polling
import DocIndex.Proofs.SearchBox.Run

/-! # Accounting for what a box shows

Every outcome in a box belongs to a call in the ledger, by its ticket. The active ticket is that
of the last call, and results and errors come from that call.
-/

namespace DocIndex.SearchBox

variable {τ σ : Type} {b : SearchBox τ} {l : Ledger τ}

/-! ## The account -/

/-- The last call was made with the query that the box shows, and the query has not been changed
since. -/
def Current (b : SearchBox τ) (l : Ledger τ) (c : Call τ) : Prop :=
  l.calls.getLast? = some c ∧ c.query = b.query ∧ c.edits = l.edits.length

/-- Each ticket is the place of a call in the ledger: that of an outcome leads to a call with the
outcome, that of a watched search to a call that was given the search. -/
structure Ticketed (b : SearchBox τ) (l : Ledger τ) : Prop where
  issued : b.issued = l.calls.length
  completion : ∀ c ∈ b.completions, ∃ k call, c.ticket = k + 1 ∧ l.calls[k]? = some call ∧
    call.outcome? l.answers = some c.outcome
  watch : ∀ w ∈ b.watches, ∃ k call, w.ticket = k + 1 ∧ l.calls[k]? = some call ∧
    call.reply = .pending w.search

/-- What the box shows comes from the last call. -/
structure Accounted (b : SearchBox τ) (l : Ledger τ) : Prop extends Ticketed b l where
  active : ∀ t, b.active = some t → t = b.issued ∧ b.phase = .loading
  loading : b.phase = .loading → ∃ call, Current b l call
  ready : b.phase = .ready → ∃ call result, Current b l call ∧
    call.outcome? l.answers = some (.ok result) ∧ result.found = some b.results
  error : b.phase = .error → ∃ call, Current b l call ∧
    (call.reply = .raised ∨ ∃ outcome, call.outcome? l.answers = some outcome ∧ Fails outcome)

theorem Ticketed.accounted (h : Ticketed b l) (hactive : b.active = none)
    (hphase : b.phase = .idle ∨ b.phase = .debouncing) : Accounted b l where
  toTicketed := h
  active t ht := by simp [hactive] at ht
  loading hp := by simp [hp] at hphase
  ready hp := by simp [hp] at hphase
  error hp := by simp [hp] at hphase

namespace Accounted

theorem start [Zero τ] [LT τ] [DecidableLT τ] (debounce : τ) :
    Accounted (SearchBox.start debounce) Ledger.empty := by
  refine Ticketed.accounted ⟨rfl, ?_, ?_⟩ rfl (.inl rfl)
  · intro c hc
    simp [SearchBox.start] at hc
  · intro w hw
    simp [SearchBox.start] at hw

/-! ## The query and the selection -/

/-- A change of the query leaves only the searches under way to account for. -/
theorem setQuery [Add τ] (h : Accounted b l) (now : τ) (text : String) :
    Accounted (b.setQuery now text).1 (l.edit text now) := by
  have htickets : Ticketed b (l.edit text now) := ⟨h.issued, h.completion, h.watch⟩
  unfold SearchBox.setQuery
  dsimp only
  split
  · exact Ticketed.accounted ⟨htickets.issued, htickets.completion, htickets.watch⟩ rfl (.inl rfl)
  · exact Ticketed.accounted ⟨htickets.issued, htickets.completion, htickets.watch⟩ rfl (.inr rfl)

theorem select (h : Accounted b l) (selected selectedHit : Int) :
    Accounted { b with selected, selectedHit } l where
  issued := h.issued
  completion := h.completion
  watch := h.watch
  active := h.active
  loading := h.loading
  ready := h.ready
  error := h.error

/-! ## Ends of searches -/

theorem outcome?_mono {call : Call τ} {answers answers' : Nat → Option Outcome}
    {outcome : Outcome} (hgrow : ∀ i o, answers i = some o → answers' i = some o)
    (h : call.outcome? answers = some outcome) : call.outcome? answers' = some outcome := by
  unfold Call.outcome? at *
  split at h
  · exact h
  · exact h
  · exact hgrow _ _ h

/-- New answers do not change what the calls came to before. -/
theorem answers (h : Accounted b l) {answers : Nat → Option Outcome}
    (hgrow : ∀ i o, l.answers i = some o → answers i = some o) :
    Accounted b { l with answers } where
  issued := h.issued
  completion c hc := by
    obtain ⟨k, call, hticket, hcall, houtcome⟩ := h.completion c hc
    exact ⟨k, call, hticket, hcall, outcome?_mono hgrow houtcome⟩
  watch := h.watch
  active := h.active
  loading := h.loading
  ready hp := by
    obtain ⟨call, result, hc, houtcome, hfound⟩ := h.ready hp
    exact ⟨call, result, hc, outcome?_mono hgrow houtcome, hfound⟩
  error hp := by
    obtain ⟨call, hc, hfails⟩ := h.error hp
    refine ⟨call, hc, ?_⟩
    rcases hfails with hraised | ⟨outcome, houtcome, hfails⟩
    · exact .inl hraised
    · exact .inr ⟨outcome, outcome?_mono hgrow houtcome, hfails⟩

/-- Outcomes of watched searches come in with the tickets of the searches. -/
theorem collect (h : Accounted b l) {outcome? : Nat → Option Outcome}
    (hknown : ∀ i o, outcome? i = some o → l.answers i = some o) :
    Accounted (b.collect outcome?) l where
  issued := h.issued
  completion c hc := by
    rcases List.mem_append.mp hc with hc | hc
    · exact h.completion c hc
    · obtain ⟨w, hw, hoc⟩ := List.mem_filterMap.mp hc
      obtain ⟨o, ho, rfl⟩ := Option.map_eq_some_iff.mp hoc
      obtain ⟨k, call, hticket, hcall, hreply⟩ := h.watch w hw
      exact ⟨k, call, hticket, hcall, by rw [Call.outcome?, hreply]; exact hknown _ _ ho⟩
  watch w hw := h.watch w (List.mem_filter.mp hw).1
  active := h.active
  loading := h.loading
  ready := h.ready
  error := h.error

/-! ## The poll -/

theorem taken (h : Accounted b l) : Accounted (b.withCompletions []) l where
  issued := h.issued
  completion c hc := by simp at hc
  watch := h.watch
  active := h.active
  loading := h.loading
  ready := h.ready
  error := h.error

theorem failed (h : Ticketed b l) {call : Call τ} (hc : Current b l call)
    (hfails : call.reply = .raised ∨
      ∃ outcome, call.outcome? l.answers = some outcome ∧ Fails outcome) :
    Accounted b.failed.1 l where
  issued := h.issued
  completion := h.completion
  watch := h.watch
  active _ ht := by cases ht
  loading hp := by cases hp
  ready hp := by cases hp
  error _ := ⟨call, hc, hfails⟩

theorem accept (h : Ticketed b l) {call : Call τ} (hc : Current b l call) {outcome : Outcome}
    (houtcome : call.outcome? l.answers = some outcome) :
    Accounted (b.accept outcome).1 l := by
  rcases accept_cases b outcome with ⟨hfails, haccept⟩ | ⟨result, entries, rfl, hfound, haccept⟩
  · rw [haccept]
    exact failed h hc (.inr ⟨outcome, houtcome, hfails⟩)
  · rw [haccept]
    exact {
      issued := h.issued
      completion := h.completion
      watch := h.watch
      active := fun _ ht => by cases ht
      loading := fun hp => by cases hp
      ready := fun _ => ⟨call, result, hc, houtcome, hfound⟩
      error := fun hp => by cases hp }

/-- The outcome that counts is that of the last call. -/
theorem decisive (h : Accounted b l) {c : Completion} (hd : b.decisive? = some c) :
    ∃ call, Current b l call ∧ call.outcome? l.answers = some c.outcome := by
  have hmem := List.mem_of_find?_eq_some hd
  have hawaits := List.find?_some hd
  rw [awaits, decide_eq_true_eq] at hawaits
  obtain ⟨hlatest, hphase⟩ := h.active _ hawaits
  obtain ⟨call, hcurrent⟩ := h.loading hphase
  obtain ⟨k, call', hticket, hcall, houtcome⟩ := h.completion c hmem
  -- The active ticket is the newest one, so it is the place of the last call.
  have hplace : k = l.calls.length - 1 := by
    have hissued := h.issued
    omega
  have hlast := hcurrent.1
  rw [List.getLast?_eq_getElem?, ← hplace, hcall] at hlast
  cases hlast
  exact ⟨call, hcurrent, houtcome⟩

theorem drain (h : Accounted b l) : Accounted b.drain.1 l := by
  rw [drain_eq_decided]
  cases hd : b.decisive? with
  | none => exact h.taken
  | some c =>
      obtain ⟨call, hcurrent, houtcome⟩ := h.decisive hd
      exact accept h.taken.toTicketed hcurrent houtcome

/-- A query that is being issued is accounted for by the call that it is. -/
theorem begun (h : Accounted b l) {call : Call τ} (hquery : call.query = b.query)
    (hedits : call.edits = l.edits.length) : Accounted b.begun (l.call call) := by
  have hold : ∀ {k : Nat} {c : Call τ}, l.calls[k]? = some c →
      (l.call call).calls[k]? = some c := by
    intro k c hk
    rw [Ledger.call, List.getElem?_append_left (List.getElem?_eq_some_iff.mp hk).1]
    exact hk
  exact {
    issued := by simp [SearchBox.begun, Ledger.call, h.issued]
    completion := by
      intro c hc
      obtain ⟨k, call', hticket, hcall, houtcome⟩ := h.completion c hc
      exact ⟨k, call', hticket, hold hcall, houtcome⟩
    watch := by
      intro w hw
      obtain ⟨k, call', hticket, hcall, hpending⟩ := h.watch w hw
      exact ⟨k, call', hticket, hold hcall, hpending⟩
    active := by
      intro t ht
      cases ht
      exact ⟨rfl, rfl⟩
    loading := fun _ => ⟨call, by simp [Ledger.call], hquery, hedits⟩
    ready := fun hp => by cases hp
    error := fun hp => by cases hp }

theorem complete (h : Accounted b l) {k : Nat} {call : Call τ} {outcome : Outcome}
    (hissued : b.issued = k + 1) (hcall : l.calls[k]? = some call)
    (houtcome : call.outcome? l.answers = some outcome) :
    Accounted { b with completions := b.completions ++ [⟨b.issued, outcome⟩] } l where
  issued := h.issued
  completion c hc := by
    rcases List.mem_append.mp hc with hc | hc
    · exact h.completion c hc
    · rw [List.mem_singleton] at hc
      subst hc
      exact ⟨k, call, hissued, hcall, houtcome⟩
  watch := h.watch
  active := h.active
  loading := h.loading
  ready := h.ready
  error := h.error

theorem await (h : Accounted b l) {k search : Nat} {call : Call τ} (hissued : b.issued = k + 1)
    (hcall : l.calls[k]? = some call) (hreply : call.reply = .pending search) :
    Accounted { b with watches := b.watches ++ [⟨search, b.issued⟩] } l where
  issued := h.issued
  completion := h.completion
  watch w hw := by
    rcases List.mem_append.mp hw with hw | hw
    · exact h.watch w hw
    · rw [List.mem_singleton] at hw
      subst hw
      exact ⟨k, call, hissued, hcall, hreply⟩
  active := h.active
  loading := h.loading
  ready := h.ready
  error := h.error

/-- An issued query is accounted for, whatever the engine makes of it. -/
theorem issue (h : Accounted b l) {engine : Engine σ} {s : σ} {call : Call τ}
    (hquery : call.query = b.query) (hedits : call.edits = l.edits.length)
    (hreply : (engine s b.query).2 = resolve l.answers call.reply) :
    Accounted (b.issue engine s).2.1 (l.call call) := by
  have hbegun := h.begun hquery hedits
  have hissued : b.begun.issued = l.calls.length + 1 := by
    rw [hbegun.issued]
    simp [Ledger.call]
  have hcall : (l.call call).calls[l.calls.length]? = some call := by simp [Ledger.call]
  have hissue : (b.issue engine s).2.1 = (b.begun.replied (resolve l.answers call.reply)).1 := by
    rw [← hreply]
    rfl
  rw [hissue]
  cases hr : call.reply with
  | raised =>
      exact failed hbegun.toTicketed ⟨by simp [Ledger.call], hquery, hedits⟩ (.inl hr)
  | settled outcome =>
      exact hbegun.complete hissued hcall (by rw [Call.outcome?, hr])
  | pending search =>
      rw [resolve]
      split
      · rename_i outcome hanswer
        exact hbegun.complete hissued hcall (by rw [Call.outcome?, hr]; exact hanswer)
      · exact hbegun.await hissued hcall hr

section Poll

variable [Zero τ] [LT τ] [DecidableLT τ] [LE τ] [DecidableLE τ]

theorem poll_due (h : Accounted b l) {engine : Engine σ} {s : σ} {call : Call τ} {now : τ}
    (timeout : τ) (hdue : b.isDue now = true) (hquery : call.query = b.query)
    (hedits : call.edits = l.edits.length)
    (hreply : (engine s b.query).2 = resolve l.answers call.reply) :
    Accounted (b.poll engine s now timeout).box (l.call call) := by
  rw [poll_box_of_due engine s timeout hdue]
  exact (h.issue hquery hedits hreply).drain

theorem poll_not_due (h : Accounted b l) (engine : Engine σ) (s : σ) {now : τ} (timeout : τ)
    (hdue : b.isDue now = false) : Accounted (b.poll engine s now timeout).box l := by
  rw [poll_box_of_not_due engine s timeout hdue]
  exact h.drain

end Poll

end Accounted

end DocIndex.SearchBox
