import DocIndex.Proofs.Index.Uncached
import DocIndex.Proofs.SearchBox.Issuing
import DocIndex.Proofs.Session.Shown

/-! # Polls that settle

A query that is due and can be answered at once is answered by one poll, whatever outcomes of
older searches have come in. Any other query is refused by a closed index, or waits for the one job
for its partition.
-/

namespace DocIndex.Session

open SearchBox

variable {τ : Type} {s : Session τ}

/-! ## The box of a session -/

namespace Run

variable [Zero τ] [Add τ] [LT τ] [DecidableLT τ] [LE τ] [DecidableLE τ]

theorem step_coherent [Literal.Reader] (r : Run τ) (e : Event τ) (h : Coherent r.session.box) :
    Coherent (r.step e).session.box := by
  cases e with
  | setQuery now text => exact .setQuery r.session.box now text
  | clear now => exact .setQuery r.session.box now ""
  | press now key => exact h.press now key
  | poll now timeout => exact h.poll Index.engine r.session.index now timeout
  | run p? fetch => exact h.withInbox _ _
  | breakOff p f => exact h.withInbox _ _
  | warm _ | reset _ | close => exact h

end Run

/-! ## The reply of the index -/

theorem engine_of_answered {x : Index} {raw : String} {outcome : Outcome}
    (h : (x.search raw).1.searchOutcome? (x.search raw).2 = some outcome) :
    (Index.engine x raw).2 = .settled outcome := by
  simp [Index.engine, h]

theorem engine_of_waiting {x : Index} {raw : String}
    (h : (x.search raw).1.searchOutcome? (x.search raw).2 = none) :
    (Index.engine x raw).2 = .pending (x.search raw).2 := by
  simp [Index.engine, h]

/-! ## Polls of a query that is due -/

variable [Zero τ] [LT τ] [DecidableLT τ] [LE τ] [DecidableLE τ] {now : τ}

/-- A session in order whose query is due. -/
structure Due (s : Session τ) (now : τ) : Prop where
  coherent : Coherent s.box
  consistent : s.index.Consistent
  earlier : ∀ c ∈ s.box.completions, c.ticket ≤ s.box.issued
  due : s.box.isDue now = true

/-- A poll shows the query as loading and then the frame, which is that of the box. -/
structure Ends (s : Session τ) (now timeout : τ) (f : Frame) : Prop where
  frame : (s.poll now timeout).1.box.frame = f
  effects : (s.poll now timeout).2.1 = [.render (s.box.bare .loading), .render f]

/-- A poll shows the query as loading and leaves it so, with one job for the partition. -/
structure Waits (s : Session τ) (now timeout : τ) (p : Partition) : Prop where
  frame : (s.poll now timeout).1.box.frame = s.box.bare .loading
  effects : (s.poll now timeout).2.1 = [.render (s.box.bare .loading)]
  job : ∃ job, (s.poll now timeout).1.index.jobsFor p = [job]

namespace Due

theorem poll_eq (h : Due s now) (timeout : τ) :
    s.poll now timeout =
      let concluded :=
        (s.box.begun.withCompletions []).concluded (Index.engine s.index s.box.query).2
      ({ s with index := (s.index.search s.box.query).1, box := concluded.1 },
        .render (s.box.bare .loading) :: concluded.2, true) := by
  rw [Session.poll, poll_of_due Index.engine s.index timeout h.due h.earlier,
    h.coherent.frame_begun (isDue_eq_true h.due).1]
  rfl

/-- What the box makes of an outcome that is there at once is shown by the same poll. -/
theorem ends_of_accept (h : Due s now) (timeout : τ) {outcome : Outcome} {b : SearchBox τ}
    (houtcome : (s.index.search s.box.query).1.searchOutcome? (s.index.search s.box.query).2 =
      some outcome)
    (haccept : (s.box.begun.withCompletions []).accept outcome = b.shown) :
    Ends s now timeout b.frame := by
  constructor
  · rw [h.poll_eq, engine_of_answered houtcome, concluded, haccept]
    rfl
  · rw [h.poll_eq, engine_of_answered houtcome, concluded, haccept]
    rfl

theorem ends_of_found (h : Due s now) (timeout : τ) {result : SearchResult}
    (houtcome : (s.index.search s.box.query).1.searchOutcome? (s.index.search s.box.query).2 =
      some (.ok result)) (hfound : result.failed = false) :
    Ends s now timeout ⟨.ready, s.box.query, result.entries, 0, 0⟩ := by
  obtain ⟨entries, hentries⟩ : ∃ entries, result.found = some entries :=
    Option.isSome_iff_exists.mp (by simpa [SearchResult.failed] using hfound)
  have hresult : result.entries = entries := by simp [SearchResult.entries, hentries]
  have haccept : (s.box.begun.withCompletions []).accept (.ok result) =
      ((s.box.begun.withCompletions []).ready entries).shown := by
    rw [accept, hentries]
    rfl
  rw [hresult]
  exact h.ends_of_accept timeout houtcome haccept

theorem ends_of_failed (h : Due s now) (timeout : τ) {result : SearchResult}
    (houtcome : (s.index.search s.box.query).1.searchOutcome? (s.index.search s.box.query).2 =
      some (.ok result)) (hfailed : result.failed = true) :
    Ends s now timeout (s.box.bare .error) := by
  have haccept : (s.box.begun.withCompletions []).accept (.ok result) =
      (s.box.begun.withCompletions []).failed := by
    rw [accept, Option.isNone_iff_eq_none.mp hfailed]
  exact h.ends_of_accept timeout houtcome haccept

/-- A search that waits leaves the box loading. -/
theorem waits (h : Due s now) (timeout : τ) {q : Query.Prepared}
    (hq : Query.prepare? s.box.query s.index.minLength = some q)
    (hslot : s.index.store.slot q.partition = .unknown) (hopen : ¬s.index.Refuses q.partition) :
    Waits s now timeout q.partition := by
  obtain ⟨hnone, hjob⟩ := h.consistent.search_waits hq hslot hopen
  have hframe := h.coherent.frame_begun (isDue_eq_true h.due).1
  constructor
  · rw [h.poll_eq, engine_of_waiting hnone]
    exact hframe
  · rw [h.poll_eq, engine_of_waiting hnone]
    rfl
  · rw [h.poll_eq]
    exact hjob

/-- Outcomes of other searches make no difference. -/
theorem poll_withCompletions (h : Due s now) (timeout : τ) {completions : List Completion}
    (hearlier : ∀ c ∈ completions, c.ticket ≤ s.box.issued) :
    { s with box := s.box.withCompletions completions }.poll now timeout = s.poll now timeout := by
  have hidle : s.box.active = none := by
    rw [h.coherent.active, (isDue_eq_true h.due).1]
    rfl
  have hnone : ∀ cs : List Completion, cs.find? s.box.awaits = none := fun cs =>
    List.find?_eq_none.mpr fun c _ => by simp [awaits, hidle]
  have hpoll := SearchBox.poll_withCompletions Index.engine s.index now timeout
    ((hnone completions).trans (hnone s.box.completions).symm) hearlier h.earlier
  rw [Session.poll, Session.poll]
  dsimp only
  rw [hpoll]

end Due

/-! ## Any run -/

/-- A poll at time `now` settles what can be settled at once. -/
structure Settles (s : Session τ) (now timeout : τ) : Prop where
  /-- What the store can answer is shown. -/
  found : ∀ result, s.index.searchCached s.box.query = some result → result.failed = false →
    Ends s now timeout ⟨.ready, s.box.query, result.entries, 0, 0⟩
  /-- That a partition could not be had is an error. -/
  failed : ∀ result, s.index.searchCached s.box.query = some result → result.failed = true →
    Ends s now timeout (s.box.bare .error)
  /-- What the store cannot answer is an error if the index refuses it. Otherwise it waits. -/
  unanswered : s.index.searchCached s.box.query = none →
    ∃ q, Query.prepare? s.box.query s.index.minLength = some q ∧
      (s.index.Refuses q.partition → Ends s now timeout (s.box.bare .error)) ∧
      (¬s.index.Refuses q.partition → Waits s now timeout q.partition)
  /-- The outcomes of earlier searches that have come in make no difference. -/
  earlier : ∀ completions : List Completion, (∀ c ∈ completions, c.ticket ≤ s.box.issued) →
    { s with box := s.box.withCompletions completions }.poll now timeout = s.poll now timeout

theorem Due.settles (h : Due s now) (timeout : τ) : Settles s now timeout where
  found _ hcached := h.ends_of_found timeout (Index.search_of_searchCached hcached).1
  failed _ hcached := h.ends_of_failed timeout (Index.search_of_searchCached hcached).1
  unanswered hnone := by
    obtain ⟨q, hq, hslot⟩ := Index.searchCached_eq_none.mp hnone
    exact ⟨q, hq,
      fun hrefuses => h.ends_of_failed timeout (Index.search_of_refuses hq hslot hrefuses) rfl,
      fun hopen => h.waits timeout hq hslot hopen⟩
  earlier _ hearlier := h.poll_withCompletions timeout hearlier

namespace Run

variable [Add τ]

/-- After any run, a poll of a query whose deadline is reached settles what can be settled. -/
theorem after_settles [Literal.Reader] (sectionName : String) (minLength : Int) (debounce : τ)
    (events : List (Event τ)) {deadline now : τ} (timeout : τ)
    (hphase :
      ((start sectionName minLength debounce).after events).session.box.phase = .debouncing)
    (hdeadline :
      ((start sectionName minLength debounce).after events).session.box.deadline = some deadline)
    (hreached : deadline ≤ now) :
    Settles ((start sectionName minLength debounce).after events).session now timeout := by
  obtain ⟨⟨l, hjoined⟩, -⟩ := after_sound sectionName minLength debounce events
  have hcoherent : Coherent ((start sectionName minLength debounce).after events).session.box :=
    after_induction (motive := fun r => Coherent r.session.box) (.start debounce) step_coherent
      events
  have hdue : Due ((start sectionName minLength debounce).after events).session now := {
    coherent := hcoherent
    consistent := hjoined.answering.toConsistent
    earlier := hjoined.accounted.ticket_le
    due := by simp [isDue, hphase, hdeadline, hreached] }
  exact hdue.settles timeout

/-- A run in which a file arrives for a query that has been changed since. -/
def overtakenEvents : List (Event Nat) :=
  [.setQuery 0 "Ax", .poll 5 0, .setQuery 6 "Ap",
    .run none fun _ => .ok "var searchData=\n[\n  ['apple',['Apple',['a.html','','a.h']]]\n];\n"]

section

attribute [local instance] Literal.Reader.plain

theorem after_settles_overtaken :
    ((start "all" 1 3).after overtakenEvents).session.box.completions.map Completion.ticket = [1] ∧
      Settles ((start "all" 1 3).after overtakenEvents).session 9 0 := by
  have hphase : ((start "all" 1 3).after overtakenEvents).session.box.phase = .debouncing := by
    decide +kernel
  have hdeadline : ((start "all" 1 3).after overtakenEvents).session.box.deadline = some 9 := by
    decide +kernel
  exact ⟨by decide +kernel,
    after_settles "all" 1 3 overtakenEvents 0 hphase hdeadline (Nat.le_refl 9)⟩

end

end Run

end DocIndex.Session
