import DocIndex.Display
import DocIndex.Proofs.SearchBox.Display
import Mathlib.Algebra.GroupWithZero.Nat
import Mathlib.Data.List.Forall2

/-! # Marked rows

Results are shown as blocks of rows, one for each entry in order. Among all rows only the first one
of the selected entry is marked, and among the rows of hits only that of the selected hit, which is
the hit that the enter key leads to.
-/

namespace DocIndex

/-! ## Marks -/

/-- Whether a row has the mark of the selected entry. -/
def marksEntry (row : String) : Bool := ['>'].isPrefixOf row.toList

/-- Whether the row of a hit has the mark of the selected hit. -/
def marksHit (row : String) : Bool := "    *".toList.isPrefixOf row.toList

theorem exists_split_of_itemAt? {α : Type} {items : List α} {place : Int} {a : α}
    (h : itemAt? items place = some a) :
    ∃ front back, items = front ++ a :: back ∧ (front.length : Int) = place := by
  unfold itemAt? at h
  split at h
  · rename_i hplace
    obtain ⟨hlt, ha⟩ := List.getElem?_eq_some_iff.mp h
    refine ⟨items.take place.toNat, items.drop (place.toNat + 1), ?_, ?_⟩
    · rw [← ha, ← List.drop_eq_getElem_cons hlt, List.take_append_drop]
    · rw [List.length_take]
      omega
  · cases h

/-! ## The rows of hits -/

namespace Hit

theorem marksEntry_row (hit : Hit) (selected : Bool) : marksEntry (hit.row selected) = false := by
  cases selected <;> simp [row, marksEntry, List.isPrefixOf]

@[simp] theorem marksHit_row (hit : Hit) (selected : Bool) :
    marksHit (hit.row selected) = selected := by
  cases selected <;> simp [row, marksHit, List.isPrefixOf]

theorem rows_append (hits others : List Hit) (place : Nat) (selected : Option Int) :
    rows (hits ++ others) place selected =
      rows hits place selected ++ rows others (place + hits.length) selected := by
  induction hits generalizing place with
  | nil => rfl
  | cons hit hits ih =>
      rw [List.cons_append, rows, rows, ih, List.length_cons, Nat.add_right_comm, List.cons_append,
        Nat.add_assoc]

/-- Hits are not marked where another place is selected, or none. -/
theorem rows_of_elsewhere {hits : List Hit} {place : Nat} {selected : Option Int}
    (h : ∀ i < hits.length, selected ≠ some ((place + i : Nat) : Int)) :
    rows hits place selected = hits.map (·.row false) := by
  induction hits generalizing place with
  | nil => rfl
  | cons hit hits ih =>
      have hhere : (selected == some (place : Int)) = false := by
        simpa using h 0 (Nat.zero_lt_succ _)
      rw [rows, hhere, List.map_cons, ih]
      intro i hi
      rw [Nat.add_assoc, Nat.add_comm 1 i]
      exact h (i + 1) (Nat.succ_lt_succ hi)

theorem rows_of_selected (front : List Hit) (hit : Hit) (back : List Hit) :
    rows (front ++ hit :: back) 0 (some (front.length : Int)) =
      front.map (·.row false) ++ hit.row true :: back.map (·.row false) := by
  have hfront : rows front 0 (some (front.length : Int)) = front.map (·.row false) :=
    rows_of_elsewhere fun i hi heq => by
      have hplace := Option.some.inj heq
      omega
  have hback : rows back (0 + front.length + 1) (some (front.length : Int)) =
      back.map (·.row false) :=
    rows_of_elsewhere fun i hi heq => by
      have hplace := Option.some.inj heq
      omega
  have hhere : ((some (front.length : Int)) == some ((0 + front.length : Nat) : Int)) = true := by
    simp
  rw [rows_append, hfront, rows, hhere, hback]

theorem filter_marksHit_rows (hits : List Hit) :
    (hits.map (·.row false)).filter marksHit = [] :=
  List.filter_eq_nil_iff.mpr fun row hrow => by
    obtain ⟨hit, -, rfl⟩ := List.mem_map.mp hrow
    simp

@[simp] theorem length_rows (hits : List Hit) (place : Nat) (selected : Option Int) :
    (rows hits place selected).length = hits.length := by
  induction hits generalizing place with
  | nil => rfl
  | cons hit hits ih => rw [rows, List.length_cons, ih, List.length_cons]

theorem marksEntry_of_mem_rows {hits : List Hit} {place : Nat} {selected : Option Int}
    {row : String} (h : row ∈ rows hits place selected) : marksEntry row = false := by
  induction hits generalizing place with
  | nil => cases h
  | cons hit hits ih =>
      rcases List.mem_cons.mp h with rfl | h
      · exact marksEntry_row hit _
      · exact ih h

end Hit

/-! ## The block of an entry -/

namespace Entry

/-- How many rows an entry has: one, and one more for each hit if there are several. -/
def height (e : Entry) : Nat := if e.hits.length = 1 then 1 else 1 + e.hits.length

/-- The rows of an entry that is not selected: none of them is marked. -/
structure Plain (e : Entry) (block : List String) : Prop where
  length : block.length = e.height
  title : ∃ suffix, block.head? = some ("  " ++ e.label ++ suffix)
  rows : ∀ row ∈ block, marksEntry row = false
  hits : ∀ row ∈ block.tail, marksHit row = false

/-- The rows of the selected entry, `hit` at `place` being selected among its hits. -/
structure Chosen (e : Entry) (place : Int) (hit : Hit) (block : List String) : Prop where
  length : block.length = e.height
  /-- The first row is marked and has the label. -/
  title : ∃ suffix, block.head? = some ("> " ++ e.label ++ suffix)
  rows : ∀ row ∈ block.tail, marksEntry row = false
  /-- If there are several hits, the row that describes the selected one is in its place, and no
  other one is marked. -/
  hits : e.isAmbiguous = true →
    itemAt? block.tail place = some ("    * " ++ hit.describe) ∧
      block.tail.filter marksHit = ["    * " ++ hit.describe]

/-- An entry has a row for its title, and one for each hit if there are several. -/
theorem rows_eq (e : Entry) (selected : Option Int) :
    ∃ suffix, e.rows selected =
      ((if selected.isSome then ">" else " ") ++ " " ++ e.label ++ suffix) ::
        if e.isAmbiguous then Hit.rows e.hits 0 selected else [] := by
  unfold rows
  dsimp only
  split
  · rename_i hit hhits
    exact ⟨if hit.container = "" then "" else "  " ++ hit.container, by simp [isAmbiguous, hhits]⟩
  · rename_i hhits
    have hmany : e.isAmbiguous = true := by
      have hpos := e.hits_pos
      have hone : e.hits.length ≠ 1 := fun h =>
        let ⟨hit, hsingle⟩ := List.length_eq_one_iff.mp h
        hhits hit hsingle
      simp only [isAmbiguous, decide_eq_true_eq]
      omega
    exact ⟨"", by simp [hmany]⟩

theorem length_rows (e : Entry) (selected : Option Int) :
    (e.rows selected).length = e.height := by
  obtain ⟨suffix, hrows⟩ := e.rows_eq selected
  have hpos := e.hits_pos
  rw [hrows, height, isAmbiguous]
  by_cases hone : e.hits.length = 1
  · simp [hone]
  · have hmany : 1 < e.hits.length := by omega
    simp [hone, hmany, Nat.add_comm]

theorem marksEntry_of_mem_tail_rows {e : Entry} {selected : Option Int} {row : String}
    (h : row ∈ (e.rows selected).tail) : marksEntry row = false := by
  obtain ⟨suffix, hrows⟩ := e.rows_eq selected
  rw [hrows, List.tail_cons] at h
  split at h
  · exact Hit.marksEntry_of_mem_rows h
  · cases h

theorem plain_rows (e : Entry) : e.Plain (e.rows none) where
  length := e.length_rows none
  title := by
    obtain ⟨suffix, hrows⟩ := e.rows_eq none
    exact ⟨suffix, by rw [hrows]; rfl⟩
  rows row hrow := by
    obtain ⟨suffix, hrows⟩ := e.rows_eq none
    rw [hrows] at hrow
    rcases List.mem_cons.mp hrow with rfl | hrow
    · simp [marksEntry, List.isPrefixOf]
    · have htail : row ∈ (e.rows none).tail := by rwa [hrows]
      exact marksEntry_of_mem_tail_rows htail
  hits row hrow := by
    obtain ⟨suffix, hrows⟩ := e.rows_eq none
    rw [hrows, List.tail_cons] at hrow
    split at hrow
    · rw [Hit.rows_of_elsewhere (by simp)] at hrow
      obtain ⟨hit, -, rfl⟩ := List.mem_map.mp hrow
      exact hit.marksHit_row false
    · cases hrow

theorem chosen_rows {e : Entry} {place : Int} {hit : Hit} (h : itemAt? e.hits place = some hit) :
    e.Chosen place hit (e.rows (some place)) where
  length := e.length_rows (some place)
  title := by
    obtain ⟨suffix, hrows⟩ := e.rows_eq (some place)
    exact ⟨suffix, by rw [hrows]; rfl⟩
  rows row hrow := marksEntry_of_mem_tail_rows hrow
  hits hmany := by
    obtain ⟨suffix, hrows⟩ := e.rows_eq (some place)
    obtain ⟨front, back, hhits, rfl⟩ := exists_split_of_itemAt? h
    rw [hrows, List.tail_cons, if_pos hmany, hhits, Hit.rows_of_selected]
    constructor
    · simp [itemAt?, Hit.row]
    · rw [List.filter_append, List.filter_cons_of_pos (hit.marksHit_row true),
        Hit.filter_marksHit_rows, Hit.filter_marksHit_rows]
      rfl

end Entry

/-! ## The rows of a frame -/

namespace Frame

theorem resultRows_append (f : Frame) (place : Nat) (results others : List Entry) :
    f.resultRows place (results ++ others) =
      f.resultRows place results ++ f.resultRows (place + results.length) others := by
  induction results generalizing place with
  | nil => rfl
  | cons e results ih =>
      rw [List.cons_append, resultRows, resultRows, ih, List.length_cons, List.append_assoc,
        Nat.add_right_comm, Nat.add_assoc]

theorem resultRows_of_elsewhere {f : Frame} {place : Nat} {results : List Entry}
    (h : ∀ i < results.length, ((place + i : Nat) : Int) ≠ f.selected) :
    f.resultRows place results = (results.map (·.rows none)).flatten := by
  induction results generalizing place with
  | nil => rfl
  | cons e results ih =>
      have hhere : (place : Int) ≠ f.selected := h 0 (Nat.zero_lt_succ _)
      rw [resultRows, if_neg hhere, List.map_cons, List.flatten_cons, ih]
      intro i hi
      rw [Nat.add_assoc, Nat.add_comm 1 i]
      exact h (i + 1) (Nat.succ_lt_succ hi)

theorem resultRows_of_selected {f : Frame} {front : List Entry} (e : Entry) (back : List Entry)
    (h : (front.length : Int) = f.selected) :
    f.resultRows 0 (front ++ e :: back) =
      (front.map (·.rows none)).flatten ++ e.rows (some f.selectedHit) ++
        (back.map (·.rows none)).flatten := by
  rw [resultRows_append, resultRows, resultRows_of_elsewhere, resultRows_of_elsewhere,
    if_pos (by omega), List.append_assoc]
  · intro i hi
    omega
  · intro i hi
    omega

/-- The rows show the results and mark the selected entry and its selected hit. -/
structure Marks (results : List Entry) (selected selectedHit : Int) (rows : List String)
    (e : Entry) (hit : Hit) : Prop where
  found : itemAt? e.hits selectedHit = some hit
  /-- There is a block for each result, in order. -/
  blocks : ∃ front back above block below, results = front ++ e :: back ∧
    (front.length : Int) = selected ∧ rows = above.flatten ++ block ++ below.flatten ∧
    List.Forall₂ Entry.Plain front above ∧ e.Chosen selectedHit hit block ∧
    List.Forall₂ Entry.Plain back below
  /-- Only one row has the mark of the selected entry. -/
  once : ∃ row, rows.filter marksEntry = [row]

theorem forall₂_plain (entries : List Entry) :
    List.Forall₂ Entry.Plain entries (entries.map (·.rows none)) := by
  induction entries with
  | nil => exact .nil
  | cons e entries ih => exact .cons e.plain_rows ih

theorem filter_marksEntry_of_plain {entries : List Entry} {blocks : List (List String)}
    (h : List.Forall₂ Entry.Plain entries blocks) : blocks.flatten.filter marksEntry = [] := by
  induction h with
  | nil => rfl
  | cons hplain _ ih =>
      rw [List.flatten_cons, List.filter_append, ih, List.append_nil]
      exact List.filter_eq_nil_iff.mpr fun row hrow => by simp [hplain.rows row hrow]

theorem filter_marksEntry_of_chosen {e : Entry} {place : Int} {hit : Hit} {block : List String}
    (h : e.Chosen place hit block) : ∃ row, block.filter marksEntry = [row] := by
  obtain ⟨suffix, hhead⟩ := h.title
  obtain ⟨rest, rfl⟩ := List.head?_eq_some_iff.mp hhead
  have hrest : rest.filter marksEntry = [] :=
    List.filter_eq_nil_iff.mpr fun row hrow => by simp [h.rows row hrow]
  refine ⟨"> " ++ e.label ++ suffix, ?_⟩
  rw [List.filter_cons_of_pos (by simp [marksEntry, List.isPrefixOf]), hrest]

/-- Where an entry and a hit are selected, the rows of the results mark them. -/
theorem marks_resultRows {f : Frame} {e : Entry} {hit : Hit}
    (hentry : itemAt? f.results f.selected = some e)
    (hhit : itemAt? e.hits f.selectedHit = some hit) :
    Marks f.results f.selected f.selectedHit (f.resultRows 0 f.results) e hit := by
  obtain ⟨front, back, hresults, hplace⟩ := exists_split_of_itemAt? hentry
  have hchosen := Entry.chosen_rows hhit
  have hrows := resultRows_of_selected e back hplace
  rw [← hresults] at hrows
  refine ⟨hhit, ⟨front, back, _, _, _, hresults, hplace, hrows, forall₂_plain front, hchosen,
    forall₂_plain back⟩, ?_⟩
  rw [hrows, List.filter_append, List.filter_append,
    filter_marksEntry_of_plain (forall₂_plain front),
    filter_marksEntry_of_plain (forall₂_plain back), List.nil_append, List.append_nil]
  exact filter_marksEntry_of_chosen hchosen

/-- A frame with results shows them. -/
theorem rows_of_ready {f : Frame} (hready : f.phase = .ready) (hne : f.results ≠ []) :
    f.rows = f.resultRows 0 f.results := by
  have hmatches : f.noMatches = false := by simp [noMatches, hready, hne]
  rw [rows, if_neg (by simp [hready]), hmatches]
  rfl

end Frame

/-! ## Runs -/

namespace SearchBox.Run

variable {τ : Type} [Zero τ] [LT τ] [DecidableLT τ]

/-- A box that is not as it was at first has been rendered as it is. -/
theorem getLast?_frames {debounce : τ} {r : Run τ}
    (h : Shows (SearchBox.start debounce) (r.box, r.effects)) (hphase : r.box.phase ≠ .idle) :
    (frames r.effects).getLast? = some r.box.frame := by
  have hcurrent : r.box.frame = (frames r.effects).getLast?.getD (SearchBox.start debounce).frame :=
    h.current
  cases hlast : (frames r.effects).getLast? with
  | none =>
      rw [hlast] at hcurrent
      exact absurd (congrArg Frame.phase hcurrent) hphase
  | some f => rw [hcurrent, hlast]; rfl

variable [Add τ] [LE τ] [DecidableLE τ]

/-- The last frame that was rendered marks the entry and the hit, and it is this hit that is led
to. -/
structure LeadsTo (r : Run τ) (f : Frame) (e : Entry) (hit : Hit) : Prop where
  last : (frames r.effects).getLast? = some f
  marks : Frame.Marks r.box.results r.box.selected r.box.selectedHit f.rows e hit
  activate : r.box.activate = ([.navigate hit.anchor], some hit.anchor)
  enter : ∀ now, r.box.press now .enter = (r.box, [.navigate hit.anchor], true)

/-- After any run that has come to results, the marked rows are those of the hit that the enter key
leads to. -/
theorem after_leads_to (debounce : τ) (events : List (Event τ))
    (hready : ((start debounce).after events).box.phase = .ready)
    (hne : ((start debounce).after events).box.results ≠ []) :
    ∃ f e hit, LeadsTo ((start debounce).after events) f e hit := by
  have hstart : Shows (SearchBox.start debounce) ((start debounce).box, (start debounce).effects) :=
    ⟨rfl, by simp [start]⟩
  obtain ⟨hcoherent, hshows⟩ := after_induction
    (motive := fun r => Coherent r.box ∧ Shows (SearchBox.start debounce) (r.box, r.effects))
    ⟨.start debounce, hstart⟩ step_coherent_shows events
  generalize (start debounce).after events = r at *
  obtain ⟨e, hentry⟩ := hcoherent.exists_entry hne
  obtain ⟨hit, hhit⟩ := exists_itemAt?_of_within (hcoherent.selectedHit e hentry)
  have hframe : r.box.frame.hit? = some hit := by
    have hfound : r.box.frame.entry? = some e := (if_pos hready).trans hentry
    rw [Frame.hit?, hfound]
    exact hhit
  have hactivate : r.box.activate = ([.navigate hit.anchor], some hit.anchor) := by
    rw [activate, hframe]
  refine ⟨r.box.frame, e, hit, getLast?_frames hshows (by rw [hready]; exact Phase.noConfusion), ?_,
    hactivate, fun now => by rw [press_enter hready hne, hactivate]⟩
  rw [Frame.rows_of_ready hready hne]
  exact Frame.marks_resultRows (f := r.box.frame) hentry hhit

/-! ### A run -/

/-- An entry with one hit. -/
def path : Entry where
  key := "path"
  label := "path"
  hits := [⟨"font.html#a7", "tum_font", "", none, by decide⟩]
  key_ne := by decide
  hits_ne := List.cons_ne_nil _ _
  normalize_label := by decide

/-- An entry with two hits. -/
def ball : Entry where
  key := "pcreateball"
  label := "pCreateBall"
  hits := [⟨"ball.html#g4", "", "ball.h", some "pCreateBall(int)", by decide⟩,
    ⟨"ball.html#a6", "", "ball.c", some "pCreateBall(float)", by decide⟩]
  key_ne := by decide
  hits_ne := List.cons_ne_nil _ _
  normalize_label := by decide

/-- A run in which the second hit of the second result is selected. -/
def selectingEvents : List (Event Nat) :=
  [.setQuery 0 "p", .poll 5 0 (.settled (.ok ⟨"p", "p", some [path, ball]⟩)), .press 6 .down,
    .press 7 .right]

theorem after_leads_to_second :
    ((frames ((start 3).after selectingEvents).effects).getLast?.map Frame.rows =
      some ["  path  tum_font", "> pCreateBall", "    - pCreateBall(int) (ball.h)",
        "    * pCreateBall(float) (ball.c)"]) ∧
      ∃ f e hit, LeadsTo ((start 3).after selectingEvents) f e hit := by
  have hready : ((start 3).after selectingEvents).box.phase = .ready := by decide +kernel
  have hne : ((start 3).after selectingEvents).box.results ≠ [] := by decide +kernel
  exact ⟨by decide +kernel, after_leads_to 3 selectingEvents hready hne⟩

end SearchBox.Run

end DocIndex
