import DocIndex.Proofs.SearchBox.Staleness
import Mathlib.Algebra.GroupWithZero.Nat

/-! # The order of arrival

Searches that end before a poll may end in any order. Their outcomes come in in that order, but
all that have the active ticket are the same, so the poll goes the same way.
-/

namespace DocIndex.SearchBox

variable {τ : Type} {b : SearchBox τ}

/-! ## Outcomes in another order -/

/-- The order of a list does not matter to what is found in it if there is only one such item. -/
theorem find?_eq_of_perm {α : Type} {p : α → Bool} {items others : List α}
    (hperm : items.Perm others)
    (hunique : ∀ a ∈ items, ∀ b ∈ items, p a = true → p b = true → a = b) :
    items.find? p = others.find? p := by
  cases hitem : items.find? p with
  | none =>
      symm
      rw [List.find?_eq_none] at hitem ⊢
      exact fun a ha => hitem a (hperm.mem_iff.mpr ha)
  | some a =>
      have ha := List.mem_of_find?_eq_some hitem
      have hpa := List.find?_some hitem
      cases hother : others.find? p with
      | none => exact absurd hpa (List.find?_eq_none.mp hother a (hperm.mem_iff.mp ha))
      | some c =>
          have hc := hperm.mem_iff.mpr (List.mem_of_find?_eq_some hother)
          rw [hunique a ha c hc hpa (List.find?_some hother)]

/-- Outcomes with the same ticket are the same: they are both that of the call. -/
theorem Ticketed.completion_unique {l : Ledger τ} (h : Ticketed b l) {c d : Completion}
    (hc : c ∈ b.completions) (hd : d ∈ b.completions) (hticket : c.ticket = d.ticket) : c = d := by
  obtain ⟨k, call, hk, hcall, hc⟩ := h.completion c hc
  obtain ⟨k', call', hk', hcall', hd⟩ := h.completion d hd
  obtain rfl : k = k' := by omega
  rw [hcall, Option.some.injEq] at hcall'
  subst hcall'
  rw [hc, Option.some.injEq] at hd
  cases c
  cases d
  simp only [Completion.mk.injEq] at *
  exact ⟨hticket, hd⟩

/-- The outcomes that come in when a search ends: one for each time that it was issued. -/
def arriving (b : SearchBox τ) (search : Nat) (outcome : Outcome) : List Completion :=
  b.watches.filterMap fun w => if w.search = search then some ⟨w.ticket, outcome⟩ else none

theorem finish_eq (b : SearchBox τ) (search : Nat) (outcome : Outcome) :
    b.finish search outcome =
      { b with
        completions := b.completions ++ b.arriving search outcome
        watches := b.watches.filter fun w => w.search ≠ search } := by
  have harriving : (b.watches.filterMap fun w =>
      (if w.search = search then some outcome else none).map fun o =>
        (⟨w.ticket, o⟩ : Completion)) = b.arriving search outcome := by
    rw [arriving]
    congr 1
    funext w
    split <;> rfl
  have hwatches : (b.watches.filter fun w =>
      (if w.search = search then some outcome else none).isNone) =
        b.watches.filter fun w => w.search ≠ search := by
    apply List.filter_congr
    intro w _
    by_cases hw : w.search = search <;> simp [hw]
  rw [finish, collect, harriving, hwatches]

theorem finish_withCompletions (b : SearchBox τ) (cs : List Completion) (search : Nat)
    (outcome : Outcome) :
    (b.withCompletions cs).finish search outcome =
      (b.finish search outcome).withCompletions (cs ++ b.arriving search outcome) := by
  rw [finish_eq, finish_eq]
  rfl

theorem arriving_finish {i j : Nat} (h : j ≠ i) (b : SearchBox τ) (first second : Outcome) :
    (b.finish i first).arriving j second = b.arriving j second := by
  rw [finish_eq, arriving, arriving, List.filterMap_filter]
  congr 1
  funext w
  by_cases hw : w.search = j <;> simp [hw, h]

/-- Two searches that end in either order leave the same box but for the order of outcomes. -/
theorem finish_finish {i j : Nat} (h : i ≠ j) (b : SearchBox τ) (first second : Outcome) :
    ∃ cs, ((b.finish i first).finish j second).completions.Perm cs ∧
      (b.finish j second).finish i first =
        ((b.finish i first).finish j second).withCompletions cs := by
  refine ⟨b.completions ++ b.arriving j second ++ b.arriving i first, ?_, ?_⟩
  · rw [finish_eq, arriving_finish h.symm, finish_eq]
    dsimp only
    rw [List.append_assoc, List.append_assoc]
    exact List.perm_append_comm.append_left b.completions
  · rw [finish_eq _ i, arriving_finish h, finish_eq _ j, finish_eq _ j, finish_eq _ i]
    simp only [withCompletions, List.filter_filter, Bool.and_comm]

/-! ## Searches that end in another order -/

theorem Ledger.answers_answer_of_ne (l : Ledger τ) {i j : Nat} (h : j ≠ i) (outcome : Outcome) :
    (l.answer i outcome).answers j = l.answers j := if_neg h

theorem Ledger.answer_answer (l : Ledger τ) {i j : Nat} (h : i ≠ j) (first second : Outcome) :
    (l.answer j second).answer i first = (l.answer i first).answer j second := by
  rw [answer, answer, answer, answer]
  congr 1
  funext search
  by_cases hi : search = i
  · simp [hi, h]
  · simp [hi]

namespace Run

/-- `s` is `r` but for the order of the outcomes that have come in. -/
def Reordered (r s : Run τ) : Prop :=
  ∃ cs, r.box.completions.Perm cs ∧ s = { r with box := r.box.withCompletions cs }

theorem Reordered.refl (r : Run τ) : Reordered r r := ⟨r.box.completions, .refl _, rfl⟩

theorem Reordered.trans {r s t : Run τ} (hrs : Reordered r s) (hst : Reordered s t) :
    Reordered r t := by
  obtain ⟨cs, hcs, rfl⟩ := hrs
  obtain ⟨ds, hds, rfl⟩ := hst
  exact ⟨ds, hcs.trans hds, rfl⟩

variable [Zero τ] [Add τ] [LT τ] [DecidableLT τ] [LE τ] [DecidableLE τ]

theorem step_finish_of_open {r : Run τ} {search : Nat} (h : r.ledger.answers search = none)
    (outcome : Outcome) :
    r.step (.finish search outcome) =
      ⟨r.box.finish search outcome, r.ledger.answer search outcome, r.effects⟩ := by
  rw [step, h]

/-- A search ends once. -/
theorem step_finish_of_ended {r : Run τ} {search : Nat} {answer : Outcome}
    (h : r.ledger.answers search = some answer) (outcome : Outcome) :
    r.step (.finish search outcome) = r := by
  rw [step, h]

theorem Reordered.finish {r s : Run τ} (h : Reordered r s) (search : Nat) (outcome : Outcome) :
    Reordered (r.step (.finish search outcome)) (s.step (.finish search outcome)) := by
  obtain ⟨cs, hcs, rfl⟩ := h
  cases hanswer : r.ledger.answers search with
  | some answer =>
      rw [step_finish_of_ended hanswer,
        step_finish_of_ended (r := { r with box := r.box.withCompletions cs }) hanswer]
      exact ⟨cs, hcs, rfl⟩
  | none =>
      rw [step_finish_of_open hanswer,
        step_finish_of_open (r := { r with box := r.box.withCompletions cs }) hanswer]
      refine ⟨cs ++ r.box.arriving search outcome, ?_, by rw [finish_withCompletions]⟩
      rw [finish_eq]
      exact hcs.append_right _

/-- Two searches may end in either order. -/
theorem reordered_finish_finish (r : Run τ) {i j : Nat} (h : i ≠ j) (first second : Outcome) :
    Reordered ((r.step (.finish i first)).step (.finish j second))
      ((r.step (.finish j second)).step (.finish i first)) := by
  cases hi : r.ledger.answers i with
  | some answer =>
      have hi' : (r.step (.finish j second)).ledger.answers i = some answer := by
        cases hj : r.ledger.answers j with
        | some _ => rw [step_finish_of_ended hj, hi]
        | none => rw [step_finish_of_open hj]; exact (r.ledger.answers_answer_of_ne h _).trans hi
      rw [step_finish_of_ended hi, step_finish_of_ended hi']
      exact .refl _
  | none =>
      cases hj : r.ledger.answers j with
      | some answer =>
          have hj' : (r.step (.finish i first)).ledger.answers j = some answer := by
            rw [step_finish_of_open hi]
            exact (r.ledger.answers_answer_of_ne h.symm _).trans hj
          rw [step_finish_of_ended hj', step_finish_of_ended hj]
          exact .refl _
      | none =>
          obtain ⟨cs, hperm, hbox⟩ := finish_finish h r.box first second
          have hi' := (r.ledger.answers_answer_of_ne h second).trans hi
          have hj' := (r.ledger.answers_answer_of_ne h.symm first).trans hj
          rw [step_finish_of_open hi, step_finish_of_open hj, step_finish_of_open hj',
            step_finish_of_open hi', r.ledger.answer_answer h]
          exact ⟨cs, hperm, by rw [hbox]⟩

/-- The ends of searches, in order. -/
def ends (outcomes : List (Nat × Outcome)) : List (Event τ) :=
  outcomes.map fun e => .finish e.1 e.2

theorem Reordered.ends {r s : Run τ} (h : Reordered r s) (outcomes : List (Nat × Outcome)) :
    Reordered (r.after (ends outcomes)) (s.after (ends outcomes)) := by
  induction outcomes generalizing r s with
  | nil => exact h
  | cons e rest ih => exact ih (h.finish e.1 e.2)

/-- Different searches may end in any order. -/
theorem reordered_ends {outcomes others : List (Nat × Outcome)} (hperm : outcomes.Perm others)
    (hdistinct : (outcomes.map Prod.fst).Nodup) (r : Run τ) :
    Reordered (r.after (ends outcomes)) (r.after (ends others)) := by
  induction hperm generalizing r with
  | nil => exact .refl r
  | cons e _ ih => exact ih (List.nodup_cons.mp hdistinct).2 _
  | swap e d rest =>
      have hne : d.1 ≠ e.1 := fun heq =>
        (List.nodup_cons.mp hdistinct).1 (heq ▸ List.mem_cons_self)
      exact (reordered_finish_finish r hne d.2 e.2).ends rest
  | trans hfirst _ ihfirst ihsecond =>
      exact (ihfirst hdistinct r).trans
        (ihsecond ((hfirst.map Prod.fst).nodup_iff.mp hdistinct) r)

/-! ## The poll -/

/-- What a poll does and says, with `reply` for the engine to give if it is called. -/
def polled (r : Run τ) (now timeout : τ) (reply : Reply) : Polled (Ledger τ) τ :=
  r.box.poll (engine now reply) r.ledger now timeout

theorem step_poll (r : Run τ) (now timeout : τ) (reply : Reply) :
    r.step (.poll now timeout reply) =
      ⟨(r.polled now timeout reply).box, (r.polled now timeout reply).engine,
        r.effects ++ (r.polled now timeout reply).effects⟩ := rfl

omit [Add τ] in
/-- The order in which outcomes have come in is not seen by a poll. -/
theorem Reordered.polled {r s : Run τ} (h : Reordered r s) (hr : Accounted r.box r.ledger)
    (now timeout : τ) (reply : Reply) :
    s.polled now timeout reply = r.polled now timeout reply := by
  obtain ⟨cs, hcs, rfl⟩ := h
  have hsame : cs.find? r.box.awaits = r.box.completions.find? r.box.awaits := by
    symm
    apply find?_eq_of_perm hcs
    intro c hc d hd hawaitsc hawaitsd
    rw [awaits, decide_eq_true_eq] at hawaitsc hawaitsd
    rw [hawaitsc, Option.some.injEq] at hawaitsd
    exact hr.completion_unique hc hd hawaitsd
  exact poll_withCompletions _ _ _ _ hsame (fun c hc => hr.ticket_le c (hcs.mem_iff.mpr hc))
    hr.ticket_le

omit [Add τ] in
theorem polled_completions (r : Run τ) (now timeout : τ) (reply : Reply) :
    (r.polled now timeout reply).box.completions = [] := by
  rw [Run.polled, poll_eq_drain]
  dsimp only
  rcases drain_cases (r.box.issueDue (engine now reply) r.ledger now).2.1 with
    h | ⟨-, h | ⟨_, h⟩⟩ <;> rw [h] <;> rfl

/-- A poll goes the same way in both runs, and leaves no outcomes to be looked at. -/
structure PollsAlike (r s : Run τ) (now timeout : τ) (reply : Reply) : Prop where
  /-- The box, what is shown and what the poll says. -/
  polled : s.polled now timeout reply = r.polled now timeout reply
  step : s.step (.poll now timeout reply) = r.step (.poll now timeout reply)
  emptied : (r.step (.poll now timeout reply)).box.completions = []

/-- After any run, different searches may end in any order before a poll, whatever they come to
and whether or not the poll issues another. -/
theorem after_polls_alike (debounce : τ) (events : List (Event τ))
    {outcomes others : List (Nat × Outcome)} (hperm : outcomes.Perm others)
    (hdistinct : (outcomes.map Prod.fst).Nodup) (now timeout : τ) (reply : Reply) :
    PollsAlike (((start debounce).after events).after (ends outcomes))
      (((start debounce).after events).after (ends others)) now timeout reply := by
  have hreordered := reordered_ends hperm hdistinct ((start debounce).after events)
  have hpolled := hreordered.polled
    (after_induction (after_accounted debounce events) step_accounted (ends outcomes))
    now timeout reply
  refine ⟨hpolled, ?_, polled_completions _ now timeout reply⟩
  obtain ⟨cs, -, hothers⟩ := hreordered
  rw [step_poll, step_poll, hpolled, hothers]

/-- Two searches are under way, and the query of the second one is shown. -/
def twoEvents : List (Event Nat) :=
  [.setQuery 0 "a", .poll 0 0 (.pending 0), .setQuery 1 "ab", .poll 1 0 (.pending 1)]

def firstEnd : Nat × Outcome := (0, .ok ⟨"a", "a", some []⟩)

def secondEnd : Nat × Outcome := (1, .error ⟨"FetchError", "no such file"⟩)

/-- Whichever of two searches ends first, a poll that waits for one of them sees both. -/
theorem after_polls_alike_two :
    [firstEnd, secondEnd].Perm [secondEnd, firstEnd] ∧
      ([firstEnd, secondEnd].map Prod.fst).Nodup ∧
      PollsAlike (((start 0).after twoEvents).after (ends [firstEnd, secondEnd]))
        (((start 0).after twoEvents).after (ends [secondEnd, firstEnd])) 2 5 .raised := by
  have hperm : [firstEnd, secondEnd].Perm [secondEnd, firstEnd] := .swap _ _ _
  have hdistinct : ([firstEnd, secondEnd].map Prod.fst).Nodup := by decide
  exact ⟨hperm, hdistinct, after_polls_alike 0 twoEvents hperm hdistinct 2 5 .raised⟩

end Run

end DocIndex.SearchBox
