import DocIndex.Proofs.Index.Queue
import DocIndex.Proofs.Index.Waiting
import DocIndex.Proofs.SearchBox.Awaiting
import DocIndex.Proofs.Session.Shown

/-! # Progress of a session

A session that is loading is never stuck. The outcome of its search has come in, or the search
waits for a job in the queue whose end brings it in.
-/

namespace DocIndex.Session

open SearchBox

variable {τ : Type} {s s' : Session τ} {ticket : Nat} {job : Job}

/-! ## Searches that are watched -/

/-- No search that is watched has an answer. -/
def Unanswered (s : Session τ) : Prop :=
  ∀ w ∈ s.box.watches, s.index.searchOutcome? w.search = none

/-- The box watches a search with the ticket that waits for the load of the job. -/
def Pends (s : Session τ) (ticket : Nat) (job : Job) : Prop :=
  ∃ w ∈ s.box.watches, w.ticket = ticket ∧
    ∃ q, s.index.searches[w.search]? = some (.waiting q job.load)

theorem Unanswered.withIndex (s : Session τ) (x : Index) : Unanswered (s.withIndex x) :=
  fun _ hw => (mem_watches_collect.mp hw).2

theorem Unanswered.congr (h : Unanswered s) (hwatches : s'.box.watches = s.box.watches)
    (hsearches : s'.index.searches = s.index.searches) : Unanswered s' := by
  intro w hw
  rw [Index.searchOutcome?, hsearches]
  exact h w (hwatches ▸ hw)

theorem Joined.search_lt {l : Ledger τ} (h : Joined s l) {w : Watch} (hw : w ∈ s.box.watches) :
    w.search < s.index.searches.length := by
  obtain ⟨k, call, -, hcall, hreply⟩ := h.accounted.watch w hw
  rw [h.reply k call hcall, Reply.pending.injEq] at hreply
  have hlt := (List.getElem?_eq_some_iff.mp hcall).1
  rw [h.answering.length, List.length_map]
  exact hreply ▸ hlt

/-- A search of the index is watched only if it has no answer yet. -/
theorem searchOutcome?_of_watching [Literal.Reader] {x : Index} {raw : String} {w : Watch}
    (hw : w ∈ watching ticket (Index.engine x raw).2) :
    (x.step (.search raw)).searchOutcome? w.search = none := by
  unfold Index.engine at hw
  dsimp only at hw
  split at hw
  · simp [watching] at hw
  · rename_i hnone
    rw [watching, List.mem_singleton] at hw
    rw [hw]
    exact hnone

section Poll

variable [Zero τ] [LT τ] [DecidableLT τ] [LE τ] [DecidableLE τ]

theorem poll_index [Literal.Reader] (s : Session τ) (now timeout : τ) :
    (s.poll now timeout).1.index =
      if s.box.isDue now then s.index.step (.search s.box.query) else s.index :=
  poll_engine Index.engine s.index now timeout

theorem poll_box_watches (s : Session τ) (now timeout : τ) :
    (s.poll now timeout).1.box.watches =
      s.box.watches ++ if s.box.isDue now
        then watching (s.box.issued + 1) (Index.engine s.index s.box.query).2 else [] :=
  poll_watches Index.engine s.index now timeout

theorem Unanswered.poll [Literal.Reader] {l : Ledger τ} (h : Unanswered s) (hjoined : Joined s l)
    (now timeout : τ) : Unanswered (s.poll now timeout).1 := by
  cases hdue : s.box.isDue now with
  | false =>
      have hwatches := poll_box_watches s now timeout
      have hindex := poll_index s now timeout
      simp only [hdue] at hwatches hindex
      exact h.congr (by simpa using hwatches) (by rw [hindex]; rfl)
  | true =>
      intro w hw
      rw [poll_box_watches, hdue, if_pos rfl] at hw
      rw [poll_index, hdue, if_pos rfl]
      rcases List.mem_append.mp hw with hold | hnew
      · rw [Index.searchOutcome?_step_of_not_ending rfl (hjoined.search_lt hold)]
        exact h w hold
      · exact searchOutcome?_of_watching hnew

end Poll

/-! ## The job that is waited for -/

namespace Pends

theorem mono (h : Pends s ticket job) (hwatches : s.box.watches <+: s'.box.watches)
    (hsearches : s.index.searches <+: s'.index.searches) : Pends s' ticket job := by
  obtain ⟨w, hw, hticket, q, hq⟩ := h
  exact ⟨w, hwatches.subset hw, hticket, q, getElem?_mono hsearches hq⟩

/-- While the job is in the queue its search is watched, and when it ends the outcome comes in. -/
theorem withIndex [Literal.Reader] (h : Pends s ticket job) (hindex : s.index.Consistent)
    (hjob : job ∈ s.index.queue) (e : Index.Event) :
    (job ∈ (s.index.step e).queue ∧ Pends (s.withIndex (s.index.step e)) ticket job) ∨
      (job ∉ (s.index.step e).queue ∧ Arrived (s.withIndex (s.index.step e)).box ticket) := by
  obtain ⟨w, hw, rfl, q, hq⟩ := h
  have hwatched : (s.index.step e).searches[w.search]? = some (.waiting q job.load) →
      Pends (s.withIndex (s.index.step e)) w.ticket job := by
    intro hwaiting
    have hnone : (s.index.step e).searchOutcome? w.search = none := by
      rw [Index.searchOutcome?, hwaiting]
      rfl
    exact ⟨w, mem_watches_collect.mpr ⟨hw, hnone⟩, rfl, q, hwaiting⟩
  cases hend : s.index.ending? e with
  | none =>
      obtain ⟨hsearches, hqueue⟩ := Index.prefix_step_of_not_ending hend
      exact .inl ⟨hqueue.subset hjob, hwatched (getElem?_mono hsearches hq)⟩
  | some ended =>
      obtain ⟨ended, outcome⟩ := ended
      obtain ⟨hended, store, fetched, hstep⟩ := Index.step_of_ending hend
      have hqueue : (s.index.step e).queue = s.index.queue.erase ended := by
        rw [hstep]
        rfl
      have hsearch : (s.index.step e).searches[w.search]? =
          some ((Search.waiting q job.load).settle ended.load outcome) := by
        rw [hstep, Index.searches_complete, hq]
        rfl
      -- The search is answered if it is its own job that ends, and waits on if it is another.
      by_cases hsame : job = ended
      · subst hsame
        refine .inr ⟨by simp [hqueue, hindex.nodup.mem_erase_iff], arrived_collect hw ?_⟩
        simp [Index.searchOutcome?, hsearch, Search.settle, Search.outcome?]
      · refine .inl ⟨by simp [hqueue, hindex.nodup.mem_erase_iff, hsame, hjob], hwatched ?_⟩
        rw [hsearch, Search.settle, if_neg (hindex.load_ne hjob hended hsame)]

end Pends

namespace Run

section Steps

variable [Literal.Reader] [Zero τ] [Add τ] [LT τ] [DecidableLT τ] [LE τ] [DecidableLE τ]
  {r : Run τ}

theorem step_pends (hsound : Sound r) (h : Pends r.session ticket job)
    (hjob : job ∈ r.session.index.queue) (e : Event τ) :
    (job ∈ (r.step e).session.index.queue ∧ Pends (r.step e).session ticket job) ∨
      (job ∉ (r.step e).session.index.queue ∧ Arrived (r.step e).session.box ticket) := by
  obtain ⟨⟨l, hjoined⟩, -⟩ := hsound
  cases e with
  | setQuery now text =>
      have hwatches := setQuery_watches (b := r.session.box) now text
      exact .inl ⟨hjob, h.mono (hwatches ▸ List.prefix_refl _) (List.prefix_refl _)⟩
  | clear now =>
      have hwatches := setQuery_watches (b := r.session.box) now ""
      exact .inl ⟨hjob, h.mono (hwatches ▸ List.prefix_refl _) (List.prefix_refl _)⟩
  | press now key =>
      have hwatches := press_watches (b := r.session.box) now key
      exact .inl ⟨hjob, h.mono (hwatches ▸ List.prefix_refl _) (List.prefix_refl _)⟩
  | poll now timeout =>
      have hwatches : r.session.box.watches <+: (r.session.poll now timeout).1.box.watches :=
        poll_box_watches r.session now timeout ▸ List.prefix_append _ _
      have hindex : r.session.index.searches <+: (r.session.poll now timeout).1.index.searches ∧
          r.session.index.queue <+: (r.session.poll now timeout).1.index.queue := by
        rw [poll_index]
        split
        · exact Index.prefix_step_of_not_ending rfl
        · exact ⟨List.prefix_refl _, List.prefix_refl _⟩
      exact .inl ⟨hindex.2.subset hjob, h.mono hwatches hindex.1⟩
  | warm ps =>
      have hindex := Index.prefix_step_of_not_ending (x := r.session.index) (e := .warm ps) rfl
      exact .inl ⟨hindex.2.subset hjob, h.mono (List.prefix_refl _) hindex.1⟩
  | reset p? => exact .inl ⟨hjob, h.mono (List.prefix_refl _) (List.prefix_refl _)⟩
  | run p? fetch => exact h.withIndex hjoined.answering.toConsistent hjob (.run p? fetch)
  | breakOff p f => exact h.withIndex hjoined.answering.toConsistent hjob (.breakOff p f)
  | close => exact .inl ⟨hjob, h.mono (List.prefix_refl _) (List.prefix_refl _)⟩

/-- As long as the job is in the queue, its end will bring in the outcome. -/
theorem after_arrives (hsound : Sound r) (h : Pends r.session ticket job) (more : List (Event τ))
    (e : Event τ) (hqueued : ∀ pre, pre <+: more → job ∈ (r.after pre).session.index.queue)
    (hended : job ∉ ((r.after more).step e).session.index.queue) :
    Arrived ((r.after more).step e).session.box ticket := by
  have hjob : job ∈ r.session.index.queue := hqueued [] List.nil_prefix
  induction more generalizing r with
  | nil =>
      rcases step_pends hsound h hjob e with ⟨hstays, -⟩ | ⟨-, harrived⟩
      · exact absurd hstays hended
      · exact harrived
  | cons first more ih =>
      have hstays : job ∈ (r.step first).session.index.queue :=
        hqueued [first] (List.prefix_append [first] more)
      rcases step_pends hsound h hjob first with ⟨-, hpends⟩ | ⟨hgone, -⟩
      · exact ih (step_sound r first hsound) hpends
          (fun pre hpre => hqueued (first :: pre) (List.cons_prefix_cons.mpr ⟨rfl, hpre⟩))
          hended hstays
      · exact absurd hstays hgone

/-! ## The invariant -/

/-- A session that will not get stuck: what its box awaits will come in. -/
structure Live (r : Run τ) : Prop where
  sound : Sound r
  awaiting : Awaiting r.session.box
  unanswered : Unanswered r.session

theorem step_live (e : Event τ) (h : Live r) : Live (r.step e) := by
  obtain ⟨⟨l, hjoined⟩, -⟩ := h.sound
  have hawaiting := h.awaiting
  have hunanswered := h.unanswered
  refine ⟨step_sound r e h.sound, ?_, ?_⟩
  · cases e with
    | setQuery now text => exact .setQuery now text
    | clear now => exact .setQuery now ""
    | press now key => exact hawaiting.press now key
    | poll now timeout => exact hawaiting.poll Index.engine r.session.index now timeout
    | run p? fetch => exact hawaiting.collect _
    | breakOff p f => exact hawaiting.collect _
    | warm _ | reset _ | close => exact hawaiting
  · cases e with
    | setQuery now text => exact hunanswered.congr (setQuery_watches now text) rfl
    | clear now => exact hunanswered.congr (setQuery_watches now "") rfl
    | press now key => exact hunanswered.congr (press_watches now key) rfl
    | poll now timeout => exact hunanswered.poll hjoined now timeout
    | warm ps => exact hunanswered.congr rfl (Index.warm_searches r.session.index ps)
    | run p? fetch => exact .withIndex r.session _
    | breakOff p f => exact .withIndex r.session _
    | reset _ | close => exact hunanswered.congr rfl rfl

theorem after_live (sectionName : String) (minLength : Int) (debounce : τ)
    (events : List (Event τ)) : Live ((start sectionName minLength debounce).after events) := by
  refine after_induction ⟨after_sound sectionName minLength debounce [], .start debounce, ?_⟩
    (fun _ e h => step_live e h) events
  intro w hw
  cases hw

/-! ## What is awaited -/

/-- The search of the box waits for the job, which brings in the outcome with the ticket. -/
structure Underway (r : Run τ) (ticket : Nat) (job : Job) : Prop where
  queued : job ∈ r.session.index.queue
  query : ∃ q, Query.prepare? r.session.box.query r.session.index.minLength = some q ∧
    job.partition = q.partition
  /-- Whatever happens while the job is in the queue, the event that takes it out brings in the
  outcome. -/
  ends : ∀ more e, (∀ pre, pre <+: more → job ∈ (r.after pre).session.index.queue) →
    job ∉ ((r.after more).step e).session.index.queue →
      Arrived ((r.after more).step e).session.box ticket
  /-- At any time, to run the job takes it out, and so does to break it off. -/
  run : ∀ more fetch,
    job ∉ ((r.after more).step (.run (some job.partition) fetch)).session.index.queue
  breakOff : ∀ more f,
    job ∉ ((r.after more).step (.breakOff job.partition f)).session.index.queue

theorem Live.underway (h : Live r) {w : Watch} (hw : w ∈ r.session.box.watches)
    (hticket : w.ticket = r.session.box.issued) (hloading : r.session.box.phase = .loading) :
    ∃ job, Underway r r.session.box.issued job := by
  have hconsistent : ∀ more, (r.after more).session.index.Consistent := fun more => by
    obtain ⟨⟨l, hjoined⟩, -⟩ := after_induction h.sound step_sound more
    exact hjoined.answering.toConsistent
  obtain ⟨⟨l, hjoined⟩, -⟩ := h.sound
  obtain ⟨k, call, hk, hcall, hreply⟩ := hjoined.accounted.watch w hw
  obtain ⟨last, hlast, hquery, -⟩ := hjoined.accounted.loading hloading
  -- The ticket of the search is the newest, so the search is that of the last call.
  have hplace : k = l.calls.length - 1 := by
    have hissued := hjoined.accounted.issued
    omega
  rw [List.getLast?_eq_getElem?, ← hplace, hcall] at hlast
  cases hlast
  rw [hjoined.reply k call hcall, Reply.pending.injEq] at hreply
  subst hreply
  have hraw : (l.calls.map Call.query)[w.search]? = some r.session.box.query := by
    rw [List.getElem?_map, hcall, Option.map_some, hquery]
  obtain ⟨q, n, hq, hsearch, hjob⟩ :=
    hjoined.answering.waiting_of_unanswered hraw (h.unanswered w hw)
  have hpends : Pends r.session r.session.box.issued ⟨q.partition, n⟩ :=
    ⟨w, hw, hticket, q, hsearch⟩
  refine ⟨⟨q.partition, n⟩, hjob, ⟨q, hq, rfl⟩, ?_, ?_, ?_⟩
  · exact after_arrives h.sound hpends
  · intro more fetch hmem
    exact (hconsistent more).noJob_run q.partition fetch _ hmem rfl
  · intro more f hmem
    exact (hconsistent more).noJob_breakOff q.partition f _ hmem rfl

/-- How a session gets on for which the ticket is active. -/
inductive Progresses (r : Run τ) (ticket : Nat) : Prop where
  /-- The outcome has come in, and the next poll ends the loading. -/
  | arrived (harrived : Arrived r.session.box ticket)
      (hpoll : ∀ now timeout, (r.step (.poll now timeout)).session.box.phase ≠ .loading)
  | underway {job : Job} (hjob : Underway r ticket job)

/-- A session that is loading has the outcome that it awaits, or waits for a job that brings the
outcome in when it ends. -/
theorem after_not_stuck (sectionName : String) (minLength : Int) (debounce : τ)
    (events : List (Event τ))
    (hloading :
      ((start sectionName minLength debounce).after events).session.box.phase = .loading) :
    ∃ ticket,
      ((start sectionName minLength debounce).after events).session.box.active = some ticket ∧
        Progresses ((start sectionName minLength debounce).after events) ticket := by
  have h := after_live sectionName minLength debounce events
  obtain ⟨hactive, harrived | ⟨w, hw, hticket⟩⟩ := h.awaiting hloading
  · refine ⟨_, hactive, .arrived harrived fun now timeout => ?_⟩
    exact poll_phase Index.engine _ now timeout hloading hactive harrived
  · obtain ⟨job, hjob⟩ := h.underway hw hticket hloading
    exact ⟨_, hactive, .underway hjob⟩

end Steps

/-- A session that waits for a job. -/
def waitingEvents : List (Event Nat) := [.setQuery 0 "Ap", .poll 5 0, .close]

section

attribute [local instance] Literal.Reader.plain

theorem after_not_stuck_waiting :
    ((start "all" 1 3).after waitingEvents).session.box.completions.length = 0 ∧
      ∃ ticket, ((start "all" 1 3).after waitingEvents).session.box.active = some ticket ∧
        Progresses ((start "all" 1 3).after waitingEvents) ticket := by
  have hloading : ((start "all" 1 3).after waitingEvents).session.box.phase = .loading := by
    decide +kernel
  exact ⟨by decide +kernel, after_not_stuck "all" 1 3 waitingEvents hloading⟩

end

end Run

end DocIndex.Session
