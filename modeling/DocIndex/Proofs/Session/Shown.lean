import DocIndex.Proofs.Index.Answers
import DocIndex.Proofs.Query.Filtering
import DocIndex.Proofs.SearchBox.Accounting
import DocIndex.Proofs.SearchBox.Selecting
import DocIndex.Proofs.Session.Run
import Mathlib.Algebra.GroupWithZero.Nat

/-! # What a session shows

The results that a session shows are the matches among the entries that the index holds, and the
index holds what was read from the files. The calls of the box are the searches of the index.
-/

namespace DocIndex.Session

open SearchBox

variable {τ : Type}

/-! ## The invariant -/

/-- The box is accounted for by the searches of the index, which are answers to its queries. -/
structure Joined (s : Session τ) (l : Ledger τ) : Prop where
  accounted : Accounted s.box l
  answers : l.answers = s.index.searchOutcome?
  reply : ∀ (k : Nat) call, l.calls[k]? = some call → call.reply = .pending k
  answering : s.index.Answering (l.calls.map Call.query)

/-- A session in order: its box and its index fit together, and its entries were fetched. -/
def Sound [Literal.Reader] (r : Run τ) : Prop :=
  (∃ l, Joined r.session l) ∧ r.session.index.Served r.fetches

/-- A reset forgets no entries. -/
theorem reset_entries? (s : Session τ) (p? : Option Partition) (q : Partition) :
    (s.reset p?).index.store.entries? q = s.index.store.entries? q := by
  cases p? with
  | none => exact s.index.store.entries?_resetAll q
  | some p => exact s.index.store.entries?_reset p q

namespace Joined

variable {s : Session τ} {l : Ledger τ}

theorem start [Zero τ] [LT τ] [DecidableLT τ] (sectionName : String) (minLength : Int)
    (debounce : τ) :
    Joined (Session.start sectionName minLength debounce) Ledger.empty where
  accounted := Accounted.start debounce
  answers := by
    funext i
    simp [Ledger.empty, Session.start, Index.empty, Index.searchOutcome?]
  reply k call h := by simp [Ledger.empty] at h
  answering := Index.Answering.empty sectionName minLength

/-! ## The box -/

theorem setQuery [Add τ] (h : Joined s l) (now : τ) (text : String) :
    Joined (s.setQuery now text).1 (l.edit text now) where
  accounted := h.accounted.setQuery now text
  answers := h.answers
  reply := h.reply
  answering := h.answering

theorem press [Add τ] (h : Joined s l) (now : τ) (key : Press) :
    ∃ l', Joined (s.press now key).1 l' := by
  by_cases hkey : key = .escape
  · subst hkey
    by_cases hidle : s.box.phase = .idle ∧ s.box.query = ""
    · refine ⟨l, ?_⟩
      rw [Session.press, press_escape, if_pos hidle]
      exact h
    · refine ⟨l.edit "" now, ?_⟩
      rw [Session.press, press_escape, if_neg hidle]
      exact h.setQuery now ""
  · obtain ⟨i, j, hbox⟩ := press_selects s.box now hkey
    refine ⟨l, ?_⟩
    have hsession : (s.press now key).1 = { s with box := (s.box.press now key).1 } := rfl
    rw [hsession, hbox]
    exact ⟨h.accounted.select i j, h.answers, h.reply, h.answering⟩

/-! ## The index -/

/-- A later state of the index with the same searches changes nothing for the box. -/
theorem withSearches (h : Joined s l) {x : Index} (hx : x.Answering (l.calls.map Call.query))
    (hsearches : x.searches = s.index.searches) : Joined { s with index := x } l where
  accounted := h.accounted
  answers := by
    rw [h.answers]
    funext i
    rw [Index.searchOutcome?, Index.searchOutcome?, hsearches]
  reply := h.reply
  answering := hx

/-- Searches that are answered by a change of the index reach the box. -/
theorem withIndex (h : Joined s l) {x : Index} (hx : x.Answering (l.calls.map Call.query))
    (hextends : s.index.Extends x) :
    Joined (s.withIndex x) { l with answers := x.searchOutcome? } where
  accounted := by
    have hgrow : ∀ i o, l.answers i = some o → x.searchOutcome? i = some o := by
      rw [h.answers]
      exact hextends.outcomes
    exact (h.accounted.answers hgrow).collect fun _ _ ho => ho
  answers := rfl
  reply := h.reply
  answering := hx

theorem warm (h : Joined s l) (ps : List Partition) : Joined (s.warm ps).1 l :=
  h.withSearches (h.answering.warm ps) (Index.warm_searches s.index ps)

theorem reset (h : Joined s l) (p? : Option Partition) : Joined (s.reset p?) l := by
  refine h.withSearches ?_ rfl
  exact h.answering.withStore (fun q _ hq => (s.reset_entries? p? q).trans hq) s.index.fetched
    s.index.closed

theorem close (h : Joined s l) : Joined s.close l := by
  have hindex := h.withSearches h.answering.close rfl
  exact ⟨hindex.accounted, hindex.answers, hindex.reply, hindex.answering⟩

theorem run [Literal.Reader] (h : Joined s l) (p? : Option Partition)
    (fetch : String → Except Fault String) :
    ∃ l', Joined (s.run p? fetch).1 l' :=
  ⟨_, h.withIndex (h.answering.run p? fetch) (.run s.index p? fetch)⟩

theorem breakOff (h : Joined s l) (p : Partition) (f : Fault) :
    ∃ l', Joined (s.breakOff p f).1 l' :=
  ⟨_, h.withIndex (h.answering.breakOff p f) (.breakOff s.index p f)⟩

/-! ## The poll -/

/-- The ledger after a search of the index: one more call, and its outcome if there is one. -/
def searched (s : Session τ) (l : Ledger τ) (now : τ) : Ledger τ :=
  let x := (s.index.search s.box.query).1
  { l with answers := x.searchOutcome? }.call
    ⟨s.box.query, .pending l.calls.length, now, l.edits.length⟩

/-- What the box makes of a search of the index is what the ledger says. -/
theorem engine_reply (h : Joined s l) (raw : String) :
    (Index.engine s.index raw).2 =
      resolve (s.index.search raw).1.searchOutcome? (.pending l.calls.length) := by
  have hnumber : (s.index.search raw).2 = l.calls.length := by
    rw [Index.search_number, h.answering.length, List.length_map]
  have hengine : (Index.engine s.index raw).2 =
      resolve (s.index.search raw).1.searchOutcome? (.pending (s.index.search raw).2) := rfl
  rw [hengine, hnumber]

theorem searched_answering (h : Joined s l) (now : τ) :
    (s.index.search s.box.query).1.Answering
      ((searched s l now).calls.map Call.query) := by
  have hsearch := h.answering.search s.box.query
  rw [searched, Ledger.call]
  simpa using hsearch

theorem poll [Zero τ] [LT τ] [DecidableLT τ] [LE τ] [DecidableLE τ] (h : Joined s l)
    (now timeout : τ) : ∃ l', Joined (s.poll now timeout).1 l' := by
  have hsession : (s.poll now timeout).1 =
      { s with
        index := (s.box.poll Index.engine s.index now timeout).engine
        box := (s.box.poll Index.engine s.index now timeout).box } := rfl
  rw [hsession, poll_engine]
  cases hdue : s.box.isDue now with
  | false =>
      exact ⟨l, h.accounted.poll_not_due _ _ timeout hdue, h.answers, h.reply, h.answering⟩
  | true =>
      -- A search may be answered as it begins: the ledger takes the outcomes, then the call.
      have hgrow : ∀ i o, l.answers i = some o →
          (s.index.search s.box.query).1.searchOutcome? i = some o := by
        rw [h.answers]
        exact (Index.Extends.search s.index s.box.query).outcomes
      refine ⟨searched s l now, ?_, rfl, ?_, h.searched_answering now⟩
      · exact (h.accounted.answers hgrow).poll_due timeout hdue rfl rfl
          (h.engine_reply s.box.query)
      · intro k call hcall
        rcases getElem?_concat_eq_some.mp hcall with hcall | ⟨rfl, rfl⟩
        · exact h.reply k call hcall
        · rfl

end Joined

/-! ## Entries -/

theorem served_run [Literal.Reader] {x : Index} {fetches : List Index.Fetch} (h : x.Served fetches)
    (p? : Option Partition) (fetch : String → Except Fault String) :
    (x.run p? fetch).1.Served (fetches ++ nextFetch x p? fetch) := by
  unfold Index.run nextFetch
  cases x.nextJob? p? with
  | some job => exact h.runJob job fetch
  | none =>
      rw [List.append_nil]
      exact h

theorem served_poll [Literal.Reader] [Zero τ] [LT τ] [DecidableLT τ] [LE τ] [DecidableLE τ]
    {s : Session τ} {fetches : List Index.Fetch} (h : s.index.Served fetches) (now timeout : τ) :
    (s.poll now timeout).1.index.Served fetches := by
  have hindex : (s.poll now timeout).1.index =
      (s.box.poll Index.engine s.index now timeout).engine := rfl
  rw [hindex, poll_engine]
  split
  · exact h.search s.box.query
  · exact h

/-! ## Steps -/

namespace Run

section Steps

variable [Literal.Reader] [Zero τ] [Add τ] [LT τ] [DecidableLT τ] [LE τ] [DecidableLE τ]

theorem step_sound (r : Run τ) (e : Event τ) (h : Sound r) : Sound (r.step e) := by
  obtain ⟨⟨l, hjoined⟩, hserved⟩ := h
  cases e with
  | setQuery now text => exact ⟨⟨_, hjoined.setQuery now text⟩, hserved⟩
  | clear now => exact ⟨⟨_, hjoined.setQuery now ""⟩, hserved⟩
  | press now key => exact ⟨hjoined.press now key, hserved⟩
  | poll now timeout => exact ⟨hjoined.poll now timeout, served_poll hserved now timeout⟩
  | warm ps => exact ⟨⟨_, hjoined.warm ps⟩, hserved.warm ps⟩
  | reset p? => exact ⟨⟨_, hjoined.reset p?⟩, hserved.of_entries rfl (reset_entries? _ p?)⟩
  | run p? fetch => exact ⟨hjoined.run p? fetch, served_run hserved p? fetch⟩
  | breakOff p f => exact ⟨hjoined.breakOff p f, hserved.breakOff p f⟩
  | close => exact ⟨⟨_, hjoined.close⟩, hserved⟩

theorem after_sound (sectionName : String) (minLength : Int) (debounce : τ)
    (events : List (Event τ)) : Sound ((start sectionName minLength debounce).after events) :=
  after_induction ⟨⟨_, Joined.start sectionName minLength debounce⟩,
    Index.Served.empty sectionName minLength⟩ step_sound events

end Steps

/-! ## What is shown -/

/-- The results are what the index holds for the query. -/
structure ShowsHeld [Literal.Reader] (r : Run τ) : Prop where
  /-- A query too short has no results. -/
  short : Query.prepare? r.session.box.query r.session.index.minLength = none →
    r.session.box.results = []
  /-- Any other query has the entries of its partition, as some fetched text gave them, whose key
  begins with the query's key. -/
  held : ∀ q, Query.prepare? r.session.box.query r.session.index.minLength = some q →
    ∃ held, r.session.index.store.entries? q.partition = some held ∧
      Index.ReadFrom r.session.index.sectionName r.fetches q.partition held ∧
      r.session.box.results = held.filter (Query.matchesKey q.normalized)

/-- An answer gives what the index holds for its query. -/
theorem showsHeld_of_answers [Literal.Reader] {r : Run τ} {result : SearchResult}
    (hserved : r.session.index.Served r.fetches)
    (hanswers : r.session.index.Answers r.session.box.query (.answered (.ok result)))
    (hfound : result.found = some r.session.box.results) : ShowsHeld r := by
  cases hanswers with
  | short hq =>
      refine ⟨fun _ => (Option.some.inj hfound).symm, fun q hq' => ?_⟩
      rw [hq] at hq'
      cases hq'
  | unavailable hq => cases hfound
  | found hq hheld =>
      rename_i q held
      refine ⟨fun hnone => ?_, fun q' hq' => ?_⟩
      · rw [hq] at hnone
        cases hnone
      · rw [hq] at hq'
        cases hq'
        have hread := hserved q.partition held hheld
        refine ⟨held, hheld, hread, ?_⟩
        rw [← Query.filterByKey_eq_filter q.normalized hread.pairwise]
        exact (Option.some.inj hfound).symm

section Shown

variable [Literal.Reader] [Zero τ] [Add τ] [LT τ] [DecidableLT τ] [LE τ] [DecidableLE τ]

/-- Whenever a session shows results, they are what its index holds for its query. -/
theorem after_shows_held (sectionName : String) (minLength : Int) (debounce : τ)
    (events : List (Event τ))
    (hready : ((start sectionName minLength debounce).after events).session.box.phase = .ready) :
    ShowsHeld ((start sectionName minLength debounce).after events) := by
  obtain ⟨⟨l, h⟩, hserved⟩ := after_sound sectionName minLength debounce events
  obtain ⟨call, result, ⟨hlast, hquery, -⟩, houtcome, hfound⟩ := h.accounted.ready hready
  rw [List.getLast?_eq_getElem?] at hlast
  rw [Call.outcome?, h.reply _ call hlast, h.answers] at houtcome
  obtain ⟨s, hs, hs'⟩ := Option.bind_eq_some_iff.mp houtcome
  cases s with
  | waiting q n => cases hs'
  | answered outcome =>
      cases hs'
      refine showsHeld_of_answers hserved ?_ hfound
      rw [← hquery]
      exact h.answering.answers _ call.query _ (by rw [List.getElem?_map, hlast]; rfl) hs

end Shown

/-- A run in which a file is fetched for a query. -/
def appleEvents : List (Event Nat) :=
  [.setQuery 0 "Ap", .poll 5 0,
    .run none fun _ => .ok "var searchData=\n[\n  ['apple',['Apple',['a.html','','a.h']]]\n];\n",
    .poll 6 0]

section

attribute [local instance] Literal.Reader.plain

theorem after_shows_held_apple :
    ((start "all" 1 3).after appleEvents).session.box.results.map Entry.label = ["Apple"] ∧
      ShowsHeld ((start "all" 1 3).after appleEvents) := by
  have hready : ((start "all" 1 3).after appleEvents).session.box.phase = .ready := by
    decide +kernel
  exact ⟨by decide +kernel, after_shows_held "all" 1 3 appleEvents hready⟩

end

end Run

end DocIndex.Session
