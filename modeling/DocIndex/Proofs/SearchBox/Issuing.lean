import DocIndex.Proofs.SearchBox.Coherence

/-! # Polls that issue

A poll of a box whose query is due comes to what the engine replies. The outcomes that had come in
before belong to older searches and do not count, so a query that is answered at once is shown as
loading and then with its answer, all in one poll.
-/

namespace DocIndex.SearchBox

variable {τ σ : Type} {b : SearchBox τ}

/-- The frame of the query without results, in some phase. -/
def bare (b : SearchBox τ) (phase : Phase) : Frame := ⟨phase, b.query, [], 0, 0⟩

theorem Coherent.frame_begun (h : Coherent b) (hphase : b.phase = .debouncing) :
    b.begun.frame = b.bare .loading := by
  have hempty := h.results_eq_nil (by rw [hphase]; exact Phase.noConfusion)
  obtain ⟨hselected, hselectedHit⟩ := h.unselected hempty
  simp [SearchBox.begun, frame, bare, hempty, hselected, hselectedHit]

/-- A box whose search has the reply, which has been looked at. -/
def concluded (b : SearchBox τ) : Reply → SearchBox τ × List Effect
  | .raised => b.failed
  | .settled outcome => b.accept outcome
  | .pending search => ({ b with watches := b.watches ++ [⟨search, b.issued⟩] }, [])

/-- Of the outcomes that have come in when a query is issued, only its own can count. -/
theorem decisive?_issue (engine : Engine σ) (s : σ)
    (hold : ∀ c ∈ b.completions, c.ticket ≤ b.issued) :
    (b.issue engine s).2.1.decisive? =
      (incoming (b.issued + 1) (engine s b.query).2).find? (b.issue engine s).2.1.awaits := by
  rw [decisive?, issue_completions, List.find?_append, find?_awaits_issue engine s hold]
  rfl

/-- A poll that issues the query shows it as loading, and then what the reply makes of it. -/
theorem poll_of_due [Zero τ] [LT τ] [DecidableLT τ] [LE τ] [DecidableLE τ] (engine : Engine σ)
    (s : σ) {now : τ} (timeout : τ) (hdue : b.isDue now = true)
    (hold : ∀ c ∈ b.completions, c.ticket ≤ b.issued) :
    b.poll engine s now timeout =
      let concluded := (b.begun.withCompletions []).concluded (engine s b.query).2
      ⟨(engine s b.query).1, concluded.1, .render b.begun.frame :: concluded.2, true⟩ := by
  have hdecisive := decisive?_issue engine s hold
  rw [poll_eq_drain, issueDue, if_pos hdue, hdue]
  dsimp only
  rw [drain_eq_decided, hdecisive, issue_eq]
  cases (engine s b.query).2 with
  | raised => rfl
  | settled outcome =>
      have hawaits : (b.begun.replied (.settled outcome)).1.awaits ⟨b.issued + 1, outcome⟩ = true :=
        decide_eq_true rfl
      dsimp only
      rw [incoming, List.find?_cons_of_pos hawaits]
      rfl
  | pending search => simp [incoming, replied, concluded, decided, withCompletions, begun]

end DocIndex.SearchBox
