import DocIndex.SearchBox.Poll

/-! # What a poll does

Of the outcomes that have come in, at most one counts: the first of the active search. So a poll
issues a query that is due and then accepts that one outcome, whatever the others are and however
long it may wait.
-/

namespace DocIndex.SearchBox

variable {τ σ : Type} {b : SearchBox τ} {c : Completion} {cs : List Completion}

/-! ## One outcome -/

/-- Whether an outcome is that of the active search. -/
def awaits (b : SearchBox τ) (c : Completion) : Bool := b.active = some c.ticket

/-- The box with other outcomes to be looked at. -/
def withCompletions (b : SearchBox τ) (cs : List Completion) : SearchBox τ :=
  { b with completions := cs }

@[simp] theorem withCompletions_completions : (b.withCompletions cs).completions = cs := rfl

def ready (b : SearchBox τ) (entries : List Entry) : SearchBox τ :=
  { b with active := none, phase := .ready, results := entries, selected := 0, selectedHit := 0 }

/-- Whether there are no entries to be had from an outcome. -/
def Fails (outcome : Outcome) : Prop :=
  ∀ result, outcome = .ok result → result.found = none

/-- An outcome either fails or gives the results that are shown. -/
theorem accept_cases (b : SearchBox τ) (outcome : Outcome) :
    (Fails outcome ∧ b.accept outcome = b.failed) ∨
      ∃ result entries, outcome = .ok result ∧ result.found = some entries ∧
        b.accept outcome = (b.ready entries).shown := by
  cases outcome with
  | error f => exact .inl ⟨by simp [Fails], rfl⟩
  | ok result =>
      cases h : result.found with
      | none =>
          refine .inl ⟨fun r hr => ?_, by simp [accept, h]⟩
          cases hr
          exact h
      | some entries => exact .inr ⟨result, entries, rfl, h, by simp [accept, h, ready]⟩

theorem accept_active (outcome : Outcome) : (b.accept outcome).1.active = none := by
  rcases accept_cases b outcome with ⟨-, h⟩ | ⟨result, entries, -, -, h⟩ <;> rw [h] <;> rfl

theorem accept_withCompletions (outcome : Outcome) :
    (b.withCompletions cs).accept outcome =
      ((b.accept outcome).1.withCompletions cs, (b.accept outcome).2) := by
  unfold accept
  split
  · rfl
  · split <;> rfl

theorem apply_of_awaits (h : b.awaits c = true) :
    b.apply c = ((b.accept c.outcome).1, (b.accept c.outcome).2, true) := by
  rw [awaits, decide_eq_true_eq] at h
  rw [apply, if_pos h]

theorem apply_of_not_awaits (h : b.awaits c = false) : b.apply c = (b, [], false) := by
  rw [awaits, decide_eq_false_iff_not] at h
  rw [apply, if_neg h]

theorem apply_withCompletions :
    (b.withCompletions cs).apply c =
      ((b.apply c).1.withCompletions cs, (b.apply c).2.1, (b.apply c).2.2) := by
  cases h : b.awaits c with
  | true => rw [apply_of_awaits h, apply_of_awaits (b := b.withCompletions cs) h,
      accept_withCompletions]
  | false => rw [apply_of_not_awaits h, apply_of_not_awaits (b := b.withCompletions cs) h]

/-! ## All outcomes -/

/-- The outcome that counts among those that have come in. -/
def decisive? (b : SearchBox τ) : Option Completion := b.completions.find? b.awaits

/-- What looking at outcomes comes to if `c?` is the one that counts. -/
def decided (b : SearchBox τ) : Option Completion → SearchBox τ × List Effect × Bool
  | none => (b, [], false)
  | some c => ((b.accept c.outcome).1, (b.accept c.outcome).2, true)

theorem applyAll_of_inactive (h : b.active = none) : b.applyAll cs = (b, [], false) := by
  induction cs with
  | nil => rfl
  | cons c cs ih =>
      have hc : b.awaits c = false := by simp [awaits, h]
      rw [applyAll, apply_of_not_awaits hc]
      dsimp only
      rw [ih]
      rfl

theorem applyAll_eq_decided : b.applyAll cs = b.decided (cs.find? b.awaits) := by
  induction cs with
  | nil => rfl
  | cons c cs ih =>
      cases h : b.awaits c with
      | true =>
          rw [applyAll, apply_of_awaits h, List.find?_cons_of_pos h]
          dsimp only
          rw [applyAll_of_inactive (accept_active _)]
          simp [decided]
      | false =>
          rw [applyAll, apply_of_not_awaits h, List.find?_cons_of_neg (by simp [h]), ← ih]
          simp

theorem drain_eq_decided : b.drain = (b.withCompletions []).decided b.decisive? := by
  rw [drain]
  exact applyAll_eq_decided

theorem drain_congr (h : (b.withCompletions cs).decisive? = b.decisive?) :
    (b.withCompletions cs).drain = b.drain := by
  rw [drain_eq_decided, h, drain_eq_decided]
  rfl

/-- Looking at the outcomes changes what is shown only while one is awaited: the box then has
failed or has results. -/
theorem drain_cases (b : SearchBox τ) :
    b.drain.1 = b.withCompletions [] ∨ b.active ≠ none ∧
      (b.drain.1 = (b.withCompletions []).failed.1 ∨
        ∃ entries, b.drain.1 = (b.withCompletions []).ready entries) := by
  rw [drain_eq_decided]
  cases hdecisive : b.decisive? with
  | none => exact .inl rfl
  | some c =>
      have hawaits := List.find?_some hdecisive
      rw [awaits, decide_eq_true_eq] at hawaits
      refine .inr ⟨by simp [hawaits], ?_⟩
      rcases accept_cases (b.withCompletions []) c.outcome with
        ⟨-, haccept⟩ | ⟨_, entries, -, -, haccept⟩
      · exact .inl (congrArg Prod.fst haccept)
      · exact .inr ⟨entries, congrArg Prod.fst haccept⟩

/-! ## Waiting -/

/-- Looking at one outcome before the others makes no difference. -/
theorem takeOne_drain :
    (b.takeOne.1.drain.1, b.takeOne.2.1 ++ b.takeOne.1.drain.2.1,
      b.takeOne.2.2 || b.takeOne.1.drain.2.2) = b.drain := by
  cases h : b.completions with
  | nil => simp [takeOne, h]
  | cons c cs =>
      have htake : b.takeOne = (b.withCompletions cs).apply c := by
        rw [takeOne, h]
        rfl
      have hdrain : b.drain = (b.withCompletions []).applyAll (c :: cs) := by
        rw [drain, h]
        rfl
      rw [htake, hdrain, applyAll, apply_withCompletions, apply_withCompletions]
      rfl

/-! ## Issuing -/

theorem issue_eq (b : SearchBox τ) (engine : Engine σ) (s : σ) :
    b.issue engine s = ((engine s b.query).1, (b.begun.replied (engine s b.query).2).1,
      .render b.begun.frame :: (b.begun.replied (engine s b.query).2).2) := rfl

/-- The outcomes that come in with a reply. -/
def incoming (ticket : Nat) : Reply → List Completion
  | .settled outcome => [⟨ticket, outcome⟩]
  | .raised | .pending _ => []

theorem replied_withCompletions (b : SearchBox τ) (cs : List Completion) (reply : Reply) :
    (b.withCompletions cs).replied reply =
      ((b.replied reply).1.withCompletions (cs ++ incoming b.issued reply),
        (b.replied reply).2) := by
  cases reply with
  | raised =>
      rw [incoming, List.append_nil]
      rfl
  | settled outcome => rfl
  | pending search =>
      rw [incoming, List.append_nil]
      rfl

/-- Outcomes that have come in before do not count for what is issued. -/
theorem issue_withCompletions (b : SearchBox τ) (cs : List Completion) (engine : Engine σ)
    (s : σ) :
    (b.withCompletions cs).issue engine s =
      ((b.issue engine s).1,
        (b.issue engine s).2.1.withCompletions
          (cs ++ incoming (b.issued + 1) (engine s b.query).2),
        (b.issue engine s).2.2) := by
  have hreplied := replied_withCompletions b.begun cs (engine s b.query).2
  have hissue : (b.withCompletions cs).issue engine s =
      ((engine s b.query).1, ((b.begun.withCompletions cs).replied (engine s b.query).2).1,
        [.render b.begun.frame] ++
          ((b.begun.withCompletions cs).replied (engine s b.query).2).2) := rfl
  rw [hissue, hreplied]
  rfl

theorem issue_completions (engine : Engine σ) (s : σ) :
    (b.issue engine s).2.1.completions =
      b.completions ++ incoming (b.issued + 1) (engine s b.query).2 :=
  congrArg (·.2.1.completions) (issue_withCompletions b b.completions engine s)

/-- An issued query fails at once, or the box is loading. -/
theorem issue_cases (b : SearchBox τ) (engine : Engine σ) (s : σ) :
    (b.issue engine s).2.1 = b.begun.failed.1 ∨
      ∃ completions watches, (b.issue engine s).2.1 = { b.begun with completions, watches } := by
  rw [issue_eq]
  cases (engine s b.query).2 with
  | raised => exact .inl rfl
  | settled outcome => exact .inr ⟨_, _, rfl⟩
  | pending search => exact .inr ⟨_, _, rfl⟩

/-- Outcomes of older searches are not those of one that is issued. -/
theorem find?_awaits_issue (engine : Engine σ) (s : σ) (h : ∀ c ∈ cs, c.ticket ≤ b.issued) :
    cs.find? (b.issue engine s).2.1.awaits = none := by
  have hactive : (b.issue engine s).2.1.active = none ∨
      (b.issue engine s).2.1.active = some (b.issued + 1) := by
    rw [issue_eq]
    cases (engine s b.query).2 with
    | raised => exact .inl rfl
    | settled _ => exact .inr rfl
    | pending _ => exact .inr rfl
  rw [List.find?_eq_none]
  intro c hc hawaits
  rw [awaits, decide_eq_true_eq] at hawaits
  rcases hactive with hnone | hsome
  · rw [hnone] at hawaits
    cases hawaits
  · rw [hsome, Option.some.injEq] at hawaits
    have hold := h c hc
    omega

/-! ## The poll -/

theorem isDue_eq_true [LE τ] [DecidableLE τ] {now : τ} (h : b.isDue now = true) :
    b.phase = .debouncing ∧ ∀ deadline, b.deadline = some deadline → deadline ≤ now := by
  rw [isDue, Bool.and_eq_true, beq_iff_eq] at h
  refine ⟨h.1, fun deadline hdeadline => ?_⟩
  simpa [hdeadline] using h.2

/-- The engine's state and the box after a due query has been issued, and what that shows. -/
def issueDue [LE τ] [DecidableLE τ] (b : SearchBox τ) (engine : Engine σ) (s : σ) (now : τ) :
    σ × SearchBox τ × List Effect :=
  if b.isDue now then b.issue engine s else (s, b, [])

section Poll

variable [Zero τ] [LT τ] [DecidableLT τ] [LE τ] [DecidableLE τ]

/-- A poll issues a due query and looks at all outcomes, however long it may wait. -/
theorem poll_eq_drain (engine : Engine σ) (s : σ) (now timeout : τ) :
    b.poll engine s now timeout =
      let issued := b.issueDue engine s now
      let drained := issued.2.1.drain
      ⟨issued.1, drained.1, issued.2.2 ++ drained.2.1, b.isDue now || drained.2.2⟩ := by
  rw [poll, issueDue]
  dsimp only
  generalize (if b.isDue now then b.issue engine s else (s, b, [])) = issued
  obtain ⟨s', b', effects⟩ := issued
  dsimp only
  by_cases hwait : 0 < timeout ∧ b'.phase = .loading
  · rw [if_pos hwait, ← takeOne_drain (b := b')]
    simp [Bool.or_assoc]
  · rw [if_neg hwait]
    simp

theorem poll_engine (engine : Engine σ) (s : σ) (now timeout : τ) :
    (b.poll engine s now timeout).engine =
      if b.isDue now then (engine s b.query).1 else s := by
  rw [poll_eq_drain]
  dsimp only
  rw [issueDue]
  split
  · rfl
  · rfl

theorem poll_box_of_due (engine : Engine σ) (s : σ) {now : τ} (timeout : τ)
    (hdue : b.isDue now = true) :
    (b.poll engine s now timeout).box = (b.issue engine s).2.1.drain.1 := by
  rw [poll_eq_drain]
  dsimp only
  rw [issueDue, if_pos hdue]

theorem poll_box_of_not_due (engine : Engine σ) (s : σ) {now : τ} (timeout : τ)
    (hdue : b.isDue now = false) : (b.poll engine s now timeout).box = b.drain.1 := by
  rw [poll_eq_drain]
  dsimp only
  rw [issueDue, hdue]
  rfl

/-! ## Outcomes that do not count -/

/-- Polls agree on boxes in which the same outcome counts. -/
theorem poll_withCompletions (engine : Engine σ) (s : σ) (now timeout : τ)
    (hsame : cs.find? b.awaits = b.completions.find? b.awaits)
    (hcs : ∀ c ∈ cs, c.ticket ≤ b.issued) (hold : ∀ c ∈ b.completions, c.ticket ≤ b.issued) :
    (b.withCompletions cs).poll engine s now timeout = b.poll engine s now timeout := by
  have hdue : (b.withCompletions cs).isDue now = b.isDue now := rfl
  rw [poll_eq_drain, poll_eq_drain, issueDue, issueDue, hdue]
  cases b.isDue now with
  | true =>
      have hdrain : ((b.issue engine s).2.1.withCompletions
          (cs ++ incoming (b.issued + 1) (engine s b.query).2)).drain =
            (b.issue engine s).2.1.drain := by
        apply drain_congr
        -- The ticket is newer than all that came in before, so only the reply can count.
        have hcs' := find?_awaits_issue engine s hcs
        have hold' := find?_awaits_issue engine s hold
        rw [decisive?, decisive?, issue_completions, List.find?_append, hold']
        exact List.find?_append.trans (by rw [← hcs']; rfl)
      simp only [if_true, issue_withCompletions, hdrain]
  | false =>
      have hdrain : (b.withCompletions cs).drain = b.drain := drain_congr hsame
      simp [hdrain]

/-- The box without the outcomes of other searches than the active one. -/
def awaitedOnly (b : SearchBox τ) : SearchBox τ :=
  b.withCompletions (b.completions.filter b.awaits)

/-- A poll goes as if the outcomes of other searches had not come in. -/
theorem poll_awaitedOnly (engine : Engine σ) (s : σ) (now timeout : τ)
    (hold : ∀ c ∈ b.completions, c.ticket ≤ b.issued) :
    b.awaitedOnly.poll engine s now timeout = b.poll engine s now timeout := by
  apply poll_withCompletions
  · simp [List.find?_filter]
  · exact fun c hc => hold c (List.mem_filter.mp hc).1
  · exact hold

end Poll

end DocIndex.SearchBox
