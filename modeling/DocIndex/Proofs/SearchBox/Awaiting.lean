import DocIndex.Proofs.SearchBox.Polling
import DocIndex.Proofs.SearchBox.Selecting

/-! # The outcome that is awaited

While a box is loading, the outcome of its last search has come in or the search is watched. So
no outcome is lost: a watched search that is answered brings in its outcome, and the next poll
looks at it.
-/

namespace DocIndex.SearchBox

variable {τ σ : Type} {b : SearchBox τ} {ticket : Nat}

/-- An outcome with the ticket has come in. -/
def Arrived (b : SearchBox τ) (ticket : Nat) : Prop := ∃ c ∈ b.completions, c.ticket = ticket

/-- A search with the ticket is watched. -/
def Watched (b : SearchBox τ) (ticket : Nat) : Prop := ∃ w ∈ b.watches, w.ticket = ticket

/-- A box that is loading awaits the outcome of its last search, and will have it. -/
def Awaiting (b : SearchBox τ) : Prop :=
  b.phase = .loading → b.active = some b.issued ∧ (Arrived b b.issued ∨ Watched b b.issued)

/-! ## Ends of searches -/

theorem arrived_collect {outcome? : Nat → Option Outcome} {w : Watch} (hw : w ∈ b.watches)
    (houtcome : (outcome? w.search).isSome) : Arrived (b.collect outcome?) w.ticket := by
  obtain ⟨outcome, houtcome⟩ := Option.isSome_iff_exists.mp houtcome
  refine ⟨⟨w.ticket, outcome⟩, List.mem_append_right _ (List.mem_filterMap.mpr ⟨w, hw, ?_⟩), rfl⟩
  rw [houtcome, Option.map_some]

theorem mem_watches_collect {outcome? : Nat → Option Outcome} {w : Watch} :
    w ∈ (b.collect outcome?).watches ↔ w ∈ b.watches ∧ outcome? w.search = none := by
  simp [collect]

theorem setQuery_watches [Add τ] (now : τ) (text : String) :
    (b.setQuery now text).1.watches = b.watches := by
  unfold setQuery
  dsimp only
  split
  · rfl
  · rfl

theorem press_watches [Add τ] (now : τ) (key : Press) :
    (b.press now key).1.watches = b.watches := by
  by_cases hkey : key = .escape
  · rw [hkey, press_escape]
    split
    · rfl
    · exact setQuery_watches now ""
  · obtain ⟨i, j, hbox⟩ := press_selects b now hkey
    rw [hbox]

/-! ## Polls -/

/-- The searches that are watched after a reply. -/
def watching (ticket : Nat) : Reply → List Watch
  | .pending search => [⟨search, ticket⟩]
  | .raised | .settled _ => []

theorem replied_watches (b : SearchBox τ) (reply : Reply) :
    (b.replied reply).1.watches = b.watches ++ watching b.issued reply := by
  cases reply with
  | raised => exact (List.append_nil b.watches).symm
  | settled outcome => exact (List.append_nil b.watches).symm
  | pending search => rfl

theorem accept_watches (outcome : Outcome) : (b.accept outcome).1.watches = b.watches := by
  rcases accept_cases b outcome with ⟨-, h⟩ | ⟨_, entries, -, -, h⟩
  · rw [h]
    rfl
  · rw [h]
    rfl

theorem accept_phase (outcome : Outcome) : (b.accept outcome).1.phase ≠ .loading := by
  rcases accept_cases b outcome with ⟨-, h⟩ | ⟨_, entries, -, -, h⟩
  · rw [h]
    exact Phase.noConfusion
  · rw [h]
    exact Phase.noConfusion

theorem drain_watches : b.drain.1.watches = b.watches := by
  rw [drain_eq_decided]
  cases b.decisive? with
  | none => rfl
  | some c => exact accept_watches c.outcome

/-- Looking at the outcome that is awaited ends the loading. -/
theorem drain_phase (hactive : b.active = some ticket) (harrived : Arrived b ticket) :
    b.drain.1.phase ≠ .loading := by
  obtain ⟨c, hc, rfl⟩ := harrived
  have hawaits : b.awaits c = true := by simp [awaits, hactive]
  have hsome : b.decisive?.isSome := List.find?_isSome.mpr ⟨c, hc, hawaits⟩
  obtain ⟨c', hdecisive⟩ := Option.isSome_iff_exists.mp hsome
  rw [drain_eq_decided, hdecisive]
  exact accept_phase c'.outcome

section Poll

variable [Zero τ] [LT τ] [DecidableLT τ] [LE τ] [DecidableLE τ]

theorem poll_watches (engine : Engine σ) (s : σ) (now timeout : τ) :
    (b.poll engine s now timeout).box.watches =
      b.watches ++ if b.isDue now then watching (b.issued + 1) (engine s b.query).2 else [] := by
  rw [poll_eq_drain]
  dsimp only
  rw [drain_watches, issueDue]
  split
  · exact replied_watches b.begun (engine s b.query).2
  · exact (List.append_nil b.watches).symm

/-- A box that is loading leaves that phase with the next poll, once its outcome has come in. -/
theorem poll_phase (engine : Engine σ) (s : σ) (now timeout : τ) (hloading : b.phase = .loading)
    (hactive : b.active = some ticket) (harrived : Arrived b ticket) :
    (b.poll engine s now timeout).box.phase ≠ .loading := by
  have hdue : b.isDue now = false := by simp [isDue, hloading]
  rw [poll_box_of_not_due engine s timeout hdue]
  exact drain_phase hactive harrived

end Poll

/-! ## The invariant -/

namespace Awaiting

theorem start [Zero τ] [LT τ] [DecidableLT τ] (debounce : τ) :
    Awaiting (SearchBox.start debounce) := by
  intro hloading
  cases hloading

/-- A box whose query was changed is not loading. -/
theorem setQuery [Add τ] (now : τ) (text : String) : Awaiting (b.setQuery now text).1 := by
  intro hloading
  unfold SearchBox.setQuery at hloading
  dsimp only at hloading
  split at hloading
  · cases hloading
  · cases hloading

theorem press [Add τ] (h : Awaiting b) (now : τ) (key : Press) :
    Awaiting (b.press now key).1 := by
  by_cases hkey : key = .escape
  · rw [hkey, press_escape]
    split
    · exact h
    · exact setQuery now ""
  · obtain ⟨i, j, hbox⟩ := press_selects b now hkey
    rw [hbox]
    exact h

theorem collect (h : Awaiting b) (outcome? : Nat → Option Outcome) :
    Awaiting (b.collect outcome?) := by
  intro hloading
  obtain ⟨hactive, hcoming⟩ := h hloading
  refine ⟨hactive, ?_⟩
  rcases hcoming with ⟨c, hc, hticket⟩ | ⟨w, hw, hticket⟩
  · exact .inl ⟨c, List.mem_append_left _ hc, hticket⟩
  · cases houtcome : outcome? w.search with
    | none => exact .inr ⟨w, mem_watches_collect.mpr ⟨hw, houtcome⟩, hticket⟩
    | some outcome =>
        have harrived := arrived_collect hw (Option.isSome_of_eq_some houtcome)
        exact .inl (hticket ▸ harrived)

/-- A query that is issued fails, has its outcome, or is watched. -/
theorem issue (engine : Engine σ) (s : σ) : Awaiting (b.issue engine s).2.1 := by
  rw [issue_eq]
  cases (engine s b.query).2 with
  | raised =>
      intro hloading
      cases hloading
  | settled outcome =>
      exact fun _ => ⟨rfl, .inl ⟨_, List.mem_append_right _ (List.mem_singleton_self _), rfl⟩⟩
  | pending search =>
      exact fun _ => ⟨rfl, .inr ⟨_, List.mem_append_right _ (List.mem_singleton_self _), rfl⟩⟩

/-- If none of the outcomes that have come in is awaited, the search is watched. -/
theorem drain (h : Awaiting b) : Awaiting b.drain.1 := by
  intro hloading
  cases hdecisive : b.decisive? with
  | none =>
      have hdrain : b.drain.1 = b.withCompletions [] := by
        rw [drain_eq_decided, hdecisive]
        rfl
      rw [hdrain] at hloading ⊢
      obtain ⟨hactive, ⟨c, hc, hticket⟩ | hwatched⟩ := h hloading
      · have hnot := List.find?_eq_none.mp hdecisive c hc
        simp [awaits, hactive, hticket] at hnot
      · exact ⟨hactive, .inr hwatched⟩
  | some c =>
      have hawaits := List.find?_some hdecisive
      rw [awaits, decide_eq_true_eq] at hawaits
      exact absurd hloading (drain_phase hawaits ⟨c, List.mem_of_find?_eq_some hdecisive, rfl⟩)

theorem poll [Zero τ] [LT τ] [DecidableLT τ] [LE τ] [DecidableLE τ] (h : Awaiting b)
    (engine : Engine σ) (s : σ) (now timeout : τ) :
    Awaiting (b.poll engine s now timeout).box := by
  cases hdue : b.isDue now with
  | true =>
      rw [poll_box_of_due engine s timeout hdue]
      exact (issue engine s).drain
  | false =>
      rw [poll_box_of_not_due engine s timeout hdue]
      exact h.drain

end Awaiting

end DocIndex.SearchBox
