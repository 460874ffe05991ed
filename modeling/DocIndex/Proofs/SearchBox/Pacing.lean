import DocIndex.Proofs.SearchBox.Awaiting
import DocIndex.Proofs.SearchBox.Staleness
import Mathlib.Order.Defs.PartialOrder

/-! # When the engine is called

Only a poll calls the engine, and only for a query that has stood for the whole delay. Each change
of the query leads to one call at most, and the calls are numbered from one.
-/

namespace DocIndex.SearchBox

variable {τ σ : Type} {b : SearchBox τ} {l : Ledger τ}

/-! ## Boxes that wait for less -/

/-- Box `b'` waits for nothing but what `b` waits for. -/
structure Eases (b b' : SearchBox τ) : Prop where
  debounce : b'.debounce = b.debounce
  waiting : b'.phase = .debouncing →
    b.phase = .debouncing ∧ b'.query = b.query ∧ b'.deadline = b.deadline

namespace Eases

theorem select (b : SearchBox τ) (selected selectedHit : Int) :
    Eases b { b with selected, selectedHit } := ⟨rfl, fun hphase => ⟨hphase, rfl, rfl⟩⟩

theorem collect (b : SearchBox τ) (outcome? : Nat → Option Outcome) :
    Eases b (b.collect outcome?) := ⟨rfl, fun hphase => ⟨hphase, rfl, rfl⟩⟩

theorem drain (b : SearchBox τ) : Eases b b.drain.1 := by
  rcases drain_cases b with hdrain | ⟨-, hdrain | ⟨entries, hdrain⟩⟩
  · rw [hdrain]
    exact ⟨rfl, fun hphase => ⟨hphase, rfl, rfl⟩⟩
  · rw [hdrain]
    exact ⟨rfl, fun hphase => by cases hphase⟩
  · rw [hdrain]
    exact ⟨rfl, fun hphase => by cases hphase⟩

end Eases

theorem issue_waits (b : SearchBox τ) (engine : Engine σ) (s : σ) :
    (b.issue engine s).2.1.debounce = b.debounce ∧
      (b.issue engine s).2.1.phase ≠ .debouncing := by
  rcases issue_cases b engine s with hissue | ⟨completions, watches, hissue⟩
  · rw [hissue]
    exact ⟨rfl, Phase.noConfusion⟩
  · rw [hissue]
    exact ⟨rfl, Phase.noConfusion⟩

theorem setQuery_debounce [Add τ] (b : SearchBox τ) (now : τ) (text : String) :
    (b.setQuery now text).1.debounce = b.debounce := by
  unfold setQuery
  dsimp only
  split
  · rfl
  · rfl

theorem setQuery_waiting [Add τ] {now : τ} {text : String}
    (h : (b.setQuery now text).1.phase = .debouncing) :
    Query.trimStart text ≠ "" ∧ (b.setQuery now text).1.query = text ∧
      (b.setQuery now text).1.deadline = some (now + b.debounce) := by
  unfold setQuery at h ⊢
  dsimp only at h ⊢
  split at h
  · cases h
  · rename_i hblank
    rw [if_neg hblank]
    exact ⟨hblank, rfl, rfl⟩

/-! ## Calls that are due -/

/-- The last change of the query before a call. -/
def Ledger.editBefore? (l : Ledger τ) (call : Call τ) : Option (Edit τ) :=
  (l.edits.take call.edits).getLast?

theorem Ledger.editBefore?_edit {call : Call τ} (h : call.edits ≤ l.edits.length) (text : String)
    (now : τ) : (l.edit text now).editBefore? call = l.editBefore? call := by
  rw [editBefore?, editBefore?, edit, List.take_append_of_le_length h]

/-- A call that is made now comes after all changes of the query. -/
theorem Ledger.editBefore?_call {call : Call τ} (h : call.edits = l.edits.length) :
    l.editBefore? call = l.edits.getLast? := by
  rw [editBefore?, h, List.take_length]

section Pace

variable [Add τ] [LE τ]

/-- A call is due if it is made with the text of the last change of the query before it, which is
not blank, and if the delay has passed since. -/
def Due (delay : τ) (l : Ledger τ) (call : Call τ) : Prop :=
  ∃ edit, l.editBefore? call = some edit ∧ call.query = edit.query ∧
    Query.trimStart call.query ≠ "" ∧ edit.time + delay ≤ call.time

/-! ## The invariant -/

/-- All calls were due, no two of them after the same change of the query. A box that is
debouncing waits for the delay after the last change, which no call has followed. -/
structure Paced (delay : τ) (b : SearchBox τ) (l : Ledger τ) : Prop where
  debounce : b.debounce = delay
  waiting : b.phase = .debouncing → ∃ edit, l.edits.getLast? = some edit ∧
    b.query = edit.query ∧ Query.trimStart b.query ≠ "" ∧
    b.deadline = some (edit.time + delay) ∧ ∀ call ∈ l.calls, call.edits < l.edits.length
  past : ∀ call ∈ l.calls, call.edits ≤ l.edits.length
  due : ∀ call ∈ l.calls, Due delay l call
  once : l.calls.Pairwise fun a b => a.edits < b.edits

namespace Paced

variable {delay : τ}

theorem start [Zero τ] [LT τ] [DecidableLT τ] (debounce : τ) :
    Paced (SearchBox.start debounce).debounce (SearchBox.start debounce) Ledger.empty where
  debounce := rfl
  waiting hphase := by cases hphase
  past call hcall := absurd hcall List.not_mem_nil
  due call hcall := absurd hcall List.not_mem_nil
  once := .nil

theorem eases {b' : SearchBox τ} (h : Paced delay b l) (heases : Eases b b') :
    Paced delay b' l where
  debounce := heases.debounce.trans h.debounce
  waiting hphase := by
    obtain ⟨hphase, hquery, hdeadline⟩ := heases.waiting hphase
    rw [hquery, hdeadline]
    exact h.waiting hphase
  past := h.past
  due := h.due
  once := h.once

theorem answer (h : Paced delay b l) (search : Nat) (outcome : Outcome) :
    Paced delay b (l.answer search outcome) := ⟨h.debounce, h.waiting, h.past, h.due, h.once⟩

/-- The calls made so far were due to changes of the query before this one. -/
theorem edit (h : Paced delay b l) (now : τ) (text : String) :
    Paced delay (b.setQuery now text).1 (l.edit text now) := by
  have hlength : (l.edit text now).edits.length = l.edits.length + 1 := by simp [Ledger.edit]
  refine ⟨(setQuery_debounce b now text).trans h.debounce, fun hphase => ?_, fun call hcall => ?_,
    fun call hcall => ?_, h.once⟩
  · obtain ⟨hblank, hquery, hdeadline⟩ := setQuery_waiting hphase
    refine ⟨⟨text, now⟩, by simp [Ledger.edit], hquery, ?_, ?_, fun call hcall => ?_⟩
    · rw [hquery]
      exact hblank
    · rw [hdeadline, h.debounce]
    · rw [hlength]
      exact Nat.lt_succ_of_le (h.past call hcall)
  · rw [hlength]
    exact Nat.le_succ_of_le (h.past call hcall)
  · obtain ⟨edit, hedit, hdue⟩ := h.due call hcall
    exact ⟨edit, (Ledger.editBefore?_edit (h.past call hcall) text now).trans hedit, hdue⟩

section Poll

variable [Zero τ] [LT τ] [DecidableLT τ] [DecidableLE τ]

/-- The call that a poll makes is due, and is the first one since the last change of the query. -/
theorem poll_due (h : Paced delay b l) (engine : Engine σ) (s : σ) {now : τ} (timeout : τ)
    (reply : Reply) (hdue : b.isDue now = true) :
    Paced delay (b.poll engine s now timeout).box
      (l.call ⟨b.query, reply, now, l.edits.length⟩) := by
  obtain ⟨hphase, hpassed⟩ := isDue_eq_true hdue
  obtain ⟨edit, hlast, hquery, hblank, hdeadline, hfresh⟩ := h.waiting hphase
  obtain ⟨hdebounce, hissued⟩ := issue_waits b engine s
  have heases := Eases.drain (b.issue engine s).2.1
  have hmem : ∀ {c : Call τ}, c ∈ (l.call ⟨b.query, reply, now, l.edits.length⟩).calls →
      c ∈ l.calls ∨ c = ⟨b.query, reply, now, l.edits.length⟩ := by
    intro c hc
    simpa [Ledger.call] using hc
  rw [poll_box_of_due engine s timeout hdue]
  refine ⟨(heases.debounce.trans hdebounce).trans h.debounce, ?_, fun c hc => ?_,
    fun c hc => ?_, ?_⟩
  · exact fun hphase => absurd (heases.waiting hphase).1 hissued
  · rcases hmem hc with hold | rfl
    · exact h.past c hold
    · exact Nat.le_refl _
  · rcases hmem hc with hold | rfl
    · exact h.due c hold
    · exact ⟨edit, (Ledger.editBefore?_call rfl).trans hlast, hquery, hblank,
        hpassed _ hdeadline⟩
  · refine List.pairwise_append.mpr ⟨h.once, List.pairwise_singleton _ _, fun c hc new hnew => ?_⟩
    rw [List.mem_singleton] at hnew
    subst hnew
    exact hfresh c hc

theorem poll_not_due (h : Paced delay b l) (engine : Engine σ) (s : σ) {now : τ} (timeout : τ)
    (hdue : b.isDue now = false) : Paced delay (b.poll engine s now timeout).box l := by
  rw [poll_box_of_not_due engine s timeout hdue]
  exact h.eases (.drain b)

end Poll

end Paced

/-! ## Runs -/

namespace Run

variable [Zero τ] [LT τ] [DecidableLT τ] [DecidableLE τ]

theorem step_paced {delay : τ} (r : Run τ) (e : Event τ) (h : Paced delay r.box r.ledger) :
    Paced delay (r.step e).box (r.step e).ledger := by
  cases e with
  | setQuery now text => exact h.edit now text
  | clear now => exact h.edit now ""
  | press now key =>
      by_cases hkey : key = .escape
      · subst hkey
        rw [step_escape]
        split
        · exact h
        · exact h.edit now ""
      · obtain ⟨i, j, effects, hstep⟩ := step_press r now hkey
        rw [hstep]
        exact h.eases (.select r.box i j)
  | activate => exact h
  | poll now timeout reply =>
      rw [step_poll_ledger]
      cases hdue : r.box.isDue now with
      | true => exact h.poll_due _ _ timeout reply hdue
      | false => exact h.poll_not_due _ _ timeout hdue
  | finish search outcome =>
      have heases : Eases r.box (r.box.finish search outcome) := .collect r.box _
      rw [step]
      split
      · exact h
      · exact (h.eases heases).answer search outcome

theorem after_paced (debounce : τ) (events : List (Event τ)) :
    Paced (SearchBox.start debounce).debounce ((start debounce).after events).box
      ((start debounce).after events).ledger :=
  after_induction (motive := fun r => Paced _ r.box r.ledger) (.start debounce) step_paced events

/-! ## The calls of the engine -/

/-- Event `e` calls the engine: it is a poll, and the call is made at the time that the poll reads,
with the query that is shown. The number of the call is the ticket that is issued, under which the
search is watched for unless it is answered at once. -/
def CallsEngine (r : Run τ) (e : Event τ) : Prop :=
  ∃ now timeout reply, e = .poll now timeout reply ∧
    (r.step e).ledger.calls =
      r.ledger.calls ++ [⟨r.box.query, reply, now, r.ledger.edits.length⟩] ∧
    (r.step e).box.issued = r.ledger.calls.length + 1 ∧
    (r.step e).box.watches = r.box.watches ++
      watching (r.ledger.calls.length + 1) (resolve r.ledger.answers reply)

theorem step_calls (r : Run τ) (e : Event τ) (h : Accounted r.box r.ledger) :
    (r.step e).ledger.calls = r.ledger.calls ∨ r.CallsEngine e := by
  cases e with
  | setQuery now text => exact .inl rfl
  | clear now => exact .inl rfl
  | press now key =>
      by_cases hkey : key = .escape
      · subst hkey
        rw [step_escape]
        split
        · exact .inl rfl
        · exact .inl rfl
      · obtain ⟨i, j, effects, hstep⟩ := step_press r now hkey
        rw [hstep]
        exact .inl rfl
  | activate => exact .inl rfl
  | poll now timeout reply =>
      have hledger := step_poll_ledger r now timeout reply
      cases hdue : r.box.isDue now with
      | true =>
          have hissued := (step_accounted r (.poll now timeout reply) h).issued
          have hwatches := poll_watches (b := r.box) (engine now reply) r.ledger now timeout
          rw [hdue, if_pos rfl] at hledger hwatches
          refine .inr ⟨now, timeout, reply, rfl, by rw [hledger]; rfl, ?_, ?_⟩
          · rw [hissued, hledger]
            simp [Ledger.call]
          · rw [← h.issued]
            exact hwatches
      | false =>
          rw [hdue, if_neg Bool.false_ne_true] at hledger
          exact .inl (by rw [hledger])
  | finish search outcome =>
      rw [step]
      split
      · exact .inl rfl
      · exact .inl rfl

end Run

end Pace

/-! ## All runs -/

namespace Run

variable [Zero τ] [Preorder τ] [DecidableLT τ]

theorem start_debounce_nonneg (debounce : τ) : 0 ≤ (SearchBox.start debounce).debounce := by
  unfold SearchBox.start
  dsimp only
  split
  · rename_i hpos
    exact le_of_lt hpos
  · exact le_refl 0

variable [Add τ] [DecidableLE τ]

/-- The engine is called by polls alone, for queries that have stood for the delay. -/
structure Disciplined (delay : τ) (r : Run τ) : Prop extends Ticketed r.box r.ledger where
  calls : ∀ e, (r.step e).ledger.calls = r.ledger.calls ∨ r.CallsEngine e
  nonneg : 0 ≤ delay
  /-- Each call is made with the text of the last change of the query, which is not blank, and
  when the delay has passed since. -/
  due : ∀ call ∈ r.ledger.calls, Due delay r.ledger call
  /-- No two calls come after the same change of the query. -/
  once : r.ledger.calls.Pairwise fun a b => a.edits < b.edits

/-- After any run, with any clock readings, each call of the engine was due to a change of the
query of its own, and the tickets are the numbers of the calls. -/
theorem after_disciplined (debounce : τ) (events : List (Event τ)) :
    Disciplined (SearchBox.start debounce).debounce ((start debounce).after events) := by
  have hpaced := after_paced debounce events
  have haccounted := after_accounted debounce events
  exact ⟨haccounted.toTicketed, fun e => step_calls _ e haccounted, start_debounce_nonneg debounce,
    hpaced.due, hpaced.once⟩

/-- Clock readings may go back: the delay counts from the last change of the query. -/
example : ((start (3 : Int)).after [.setQuery 5 "a", .poll 7 0 (.pending 0), .setQuery 1 "ap",
    .poll 3 0 (.pending 0), .poll 4 0 (.pending 0)]).ledger.calls.map
      (fun call => (call.query, call.time, call.edits)) = [("ap", 4, 2)] := by decide +kernel

end Run

end DocIndex.SearchBox
