import DocIndex.Proofs.SearchBox.Staleness

/-! # How the fields of a box fit together

The phase of a box says which of its other fields are set, and whatever is selected is there. So
no key looks for an entry or a hit in vain.
-/

namespace DocIndex

/-! ## Places -/

/-- Whether `place`, counted from zero, is one of `count` places. -/
def Within (place : Int) (count : Nat) : Prop := 0 ≤ place ∧ place < count

theorem within_zero {count : Nat} (h : 0 < count) : Within 0 count :=
  ⟨Int.le_refl 0, Int.natCast_pos.mpr h⟩

theorem exists_itemAt?_of_within {α : Type} {items : List α} {place : Int}
    (h : Within place items.length) : ∃ a, itemAt? items place = some a := by
  obtain ⟨hle, hlt⟩ := h
  have hplace : place.toNat < items.length := by omega
  exact ⟨items[place.toNat], by rw [itemAt?, if_pos hle, List.getElem?_eq_getElem hplace]⟩

theorem Entry.hits_pos (e : Entry) : 0 < e.hits.length := List.length_pos_iff.mpr e.hits_ne

namespace SearchBox

/-- A move ends at one of the places, wherever it begins. -/
theorem within_move {count : Nat} (h : 0 < count) (place step : Int) :
    Within (move count place step) count := by
  unfold Within move
  omega

/-! ## The invariant -/

variable {τ σ : Type} {b : SearchBox τ}

/-- The fields of a box fit its phase, and its selection fits its results. -/
structure Coherent (b : SearchBox τ) : Prop where
  idle : b.phase = .idle ↔ Query.trimStart b.query = ""
  deadline : b.deadline.isSome ↔ b.phase = .debouncing
  active : b.active = if b.phase = .loading then some b.issued else none
  results : b.results ≠ [] → b.phase = .ready
  unselected : b.results = [] → b.selected = 0 ∧ b.selectedHit = 0
  selected : b.results ≠ [] → Within b.selected b.results.length
  selectedHit : ∀ e, itemAt? b.results b.selected = some e → Within b.selectedHit e.hits.length

namespace Coherent

theorem results_eq_nil (h : Coherent b) (hphase : b.phase ≠ .ready) : b.results = [] :=
  Decidable.byContradiction fun hne => hphase (h.results hne)

theorem deadline_eq_none (h : Coherent b) (hphase : b.phase ≠ .debouncing) :
    b.deadline = none := by
  cases hdeadline : b.deadline with
  | none => rfl
  | some time => exact absurd (h.deadline.mp (by rw [hdeadline]; rfl)) hphase

theorem phase_of_active (h : Coherent b) (hactive : b.active ≠ none) : b.phase = .loading :=
  Decidable.byContradiction fun hphase => hactive (by rw [h.active, if_neg hphase])

/-- The outcomes and searches that a box keeps do not matter. -/
theorem withInbox (h : Coherent b) (completions : List Completion) (watches : List Watch) :
    Coherent { b with completions, watches } where
  idle := h.idle
  deadline := h.deadline
  active := h.active
  results := h.results
  unselected := h.unselected
  selected := h.selected
  selectedHit := h.selectedHit

/-! ## The query -/

theorem start [Zero τ] [LT τ] [DecidableLT τ] (debounce : τ) :
    Coherent (SearchBox.start debounce) where
  idle := iff_of_true rfl rfl
  deadline := by simp [SearchBox.start]
  active := rfl
  results hne := absurd rfl hne
  unselected _ := ⟨rfl, rfl⟩
  selected hne := absurd rfl hne
  selectedHit e he := by simp [SearchBox.start, itemAt?] at he

/-- A change of the query sets all fields anew. -/
theorem setQuery [Add τ] (b : SearchBox τ) (now : τ) (text : String) :
    Coherent (b.setQuery now text).1 := by
  have hnone : ∀ e, itemAt? ([] : List Entry) 0 ≠ some e := by simp [itemAt?]
  unfold SearchBox.setQuery
  dsimp only
  split
  · rename_i hblank
    exact {
      idle := iff_of_true rfl hblank
      deadline := by simp [shown]
      active := rfl
      results := fun hne => absurd rfl hne
      unselected := fun _ => ⟨rfl, rfl⟩
      selected := fun hne => absurd rfl hne
      selectedHit := fun e he => absurd he (hnone e) }
  · rename_i hblank
    exact {
      idle := iff_of_false Phase.noConfusion hblank
      deadline := iff_of_true rfl rfl
      active := rfl
      results := fun hne => absurd rfl hne
      unselected := fun _ => ⟨rfl, rfl⟩
      selected := fun hne => absurd rfl hne
      selectedHit := fun e he => absurd he (hnone e) }

/-! ## The selection -/

theorem select (h : Coherent b) {i j : Int} (hi : Within i b.results.length)
    (hj : ∀ e, itemAt? b.results i = some e → Within j e.hits.length) :
    Coherent { b with selected := i, selectedHit := j } where
  idle := h.idle
  deadline := h.deadline
  active := h.active
  results := h.results
  unselected hnil := by
    obtain ⟨hle, hlt⟩ := hi
    rw [hnil, List.length_nil] at hlt
    omega
  selected _ := hi
  selectedHit := hj

theorem moveEntry (h : Coherent b) (hne : b.results ≠ []) (step : Int) :
    Coherent (b.moveEntry step).1 := by
  unfold SearchBox.moveEntry
  dsimp only
  split
  · exact h
  · exact h.select (within_move (List.length_pos_iff.mpr hne) b.selected step)
      fun e _ => within_zero e.hits_pos

theorem moveHit (h : Coherent b) (step : Int) : Coherent (b.moveHit step).1 := by
  unfold SearchBox.moveHit
  cases hentry : itemAt? b.results b.selected with
  | none => exact h
  | some e =>
      have hne : b.results ≠ [] := by
        intro hnil
        simp [hnil, itemAt?] at hentry
      dsimp only
      split
      · exact h
      · refine h.select (h.selected hne) fun e' he' => ?_
        cases hentry.symm.trans he'
        exact within_move e.hits_pos b.selectedHit step

theorem press [Add τ] (h : Coherent b) (now : τ) (key : Press) :
    Coherent (b.press now key).1 := by
  by_cases hkey : key = .escape
  · rw [hkey, press_escape]
    split
    · exact h
    · exact setQuery b now ""
  · unfold SearchBox.press
    dsimp only
    rw [if_neg hkey]
    split
    · exact h
    · rename_i hactive
      have hne : b.results ≠ [] := fun hnil => hactive (.inr (by rw [hnil]; rfl))
      cases key with
      | escape => exact absurd rfl hkey
      | up => exact h.moveEntry hne (-1)
      | down => exact h.moveEntry hne 1
      | left => exact h.moveHit (-1)
      | right => exact h.moveHit 1
      | enter => exact h
      | other => exact h

/-! ## The poll -/

/-- A box leaves the loading phase with results or with an error. -/
theorem failed (h : Coherent b) (hphase : b.phase = .loading) : Coherent b.failed.1 where
  idle := iff_of_false Phase.noConfusion fun hblank => by
    rw [h.idle.mpr hblank] at hphase
    cases hphase
  deadline := by
    have hnone := h.deadline_eq_none (by rw [hphase]; exact Phase.noConfusion)
    simp [SearchBox.failed, shown, withoutResults, hnone]
  active := rfl
  results hne := absurd rfl hne
  unselected _ := ⟨rfl, rfl⟩
  selected hne := absurd rfl hne
  selectedHit e he := by simp [SearchBox.failed, shown, withoutResults, itemAt?] at he

theorem ready (h : Coherent b) (hphase : b.phase = .loading) (entries : List Entry) :
    Coherent (b.ready entries) where
  idle := iff_of_false Phase.noConfusion fun hblank => by
    rw [h.idle.mpr hblank] at hphase
    cases hphase
  deadline := by
    have hnone := h.deadline_eq_none (by rw [hphase]; exact Phase.noConfusion)
    simp [SearchBox.ready, hnone]
  active := rfl
  results _ := rfl
  unselected _ := ⟨rfl, rfl⟩
  selected hne := within_zero (List.length_pos_iff.mpr hne)
  selectedHit e _ := within_zero e.hits_pos

theorem drain (h : Coherent b) : Coherent b.drain.1 := by
  have hempty : Coherent (b.withCompletions []) := h.withInbox [] b.watches
  rcases drain_cases b with hdrain | ⟨hactive, hdrain | ⟨entries, hdrain⟩⟩
  · rw [hdrain]
    exact hempty
  · rw [hdrain]
    exact hempty.failed (h.phase_of_active hactive)
  · rw [hdrain]
    exact hempty.ready (h.phase_of_active hactive) entries

theorem begun (h : Coherent b) (hphase : b.phase = .debouncing) : Coherent b.begun := by
  have hempty := h.results_eq_nil (by rw [hphase]; exact Phase.noConfusion)
  exact {
    idle := iff_of_false Phase.noConfusion fun hblank => by
      rw [h.idle.mpr hblank] at hphase
      cases hphase
    deadline := by simp [SearchBox.begun]
    active := rfl
    results := fun hne => absurd hempty hne
    unselected := h.unselected
    selected := h.selected
    selectedHit := h.selectedHit }

theorem issue (h : Coherent b) (hphase : b.phase = .debouncing) (engine : Engine σ) (s : σ) :
    Coherent (b.issue engine s).2.1 := by
  have hbegun := h.begun hphase
  rcases issue_cases b engine s with hissue | ⟨completions, watches, hissue⟩
  · rw [hissue]
    exact hbegun.failed rfl
  · rw [hissue]
    exact hbegun.withInbox completions watches

theorem poll [Zero τ] [LT τ] [DecidableLT τ] [LE τ] [DecidableLE τ] (h : Coherent b)
    (engine : Engine σ) (s : σ) (now timeout : τ) :
    Coherent (b.poll engine s now timeout).box := by
  cases hdue : b.isDue now with
  | true =>
      rw [poll_box_of_due engine s timeout hdue]
      exact (h.issue (isDue_eq_true hdue).1 engine s).drain
  | false =>
      rw [poll_box_of_not_due engine s timeout hdue]
      exact h.drain

end Coherent

/-! ## What is found -/

namespace Coherent

theorem exists_entry (h : Coherent b) (hne : b.results ≠ []) :
    ∃ e, itemAt? b.results b.selected = some e := exists_itemAt?_of_within (h.selected hne)

theorem exists_hit (h : Coherent b) (hready : b.phase = .ready) (hne : b.results ≠ []) :
    ∃ hit, b.frame.hit? = some hit := by
  obtain ⟨e, he⟩ := h.exists_entry hne
  obtain ⟨hit, hhit⟩ := exists_itemAt?_of_within (h.selectedHit e he)
  have hentry : b.frame.entry? = some e := (if_pos hready).trans he
  exact ⟨hit, by rw [Frame.hit?, hentry]; exact hhit⟩

end Coherent

theorem hit?_eq_none (hnone : ¬(b.phase = .ready ∧ b.results ≠ [])) : b.frame.hit? = none := by
  have hentry : b.frame.entry? = none := by
    by_cases hready : b.phase = .ready
    · have hnil : b.results = [] := Decidable.byContradiction fun hne => hnone ⟨hready, hne⟩
      simp [Frame.entry?, frame, hnil, itemAt?]
    · exact if_neg hready
  rw [Frame.hit?, hentry, Option.bind_none]

variable [Add τ]

/-- Keys other than escape need results. -/
theorem press_of_not_ready {now : τ} {key : Press} (hkey : key ≠ .escape)
    (hnone : ¬(b.phase = .ready ∧ b.results ≠ [])) : b.press now key = (b, [], false) := by
  have hidle : b.phase ≠ .ready ∨ b.results.isEmpty = true := by
    by_cases hready : b.phase = .ready
    · exact .inr (List.isEmpty_iff.mpr (Decidable.byContradiction fun hne => hnone ⟨hready, hne⟩))
    · exact .inl hready
  unfold press
  dsimp only
  rw [if_neg hkey, if_pos hidle]

theorem press_enter {now : τ} (hready : b.phase = .ready) (hne : b.results ≠ []) :
    b.press now .enter = (b, b.activate.1, true) := by
  simp [press, hready, hne]

/-- The fields of a box fit together, and a key that looks for an entry or a hit finds it. -/
structure Navigable (b : SearchBox τ) : Prop extends Coherent b where
  /-- A key that moves among hits finds the entry that has them. -/
  sideways : ∀ now key, key = .left ∨ key = .right → (b.press now key).2.2 = true →
    ∃ e, itemAt? b.results b.selected = some e
  /-- Among results there is always a hit to lead to. -/
  activates : b.phase = .ready → b.results ≠ [] → ∃ hit, b.frame.hit? = some hit ∧
    b.activate = ([.navigate hit.anchor], some hit.anchor) ∧
    ∀ now, b.press now .enter = (b, [.navigate hit.anchor], true)
  /-- Without results there is none, and nothing is led to. -/
  rests : ¬(b.phase = .ready ∧ b.results ≠ []) → b.frame.hit? = none ∧
    b.activate = ([], none) ∧ ∀ now, b.press now .enter = (b, [], false)

theorem Coherent.navigable (h : Coherent b) : Navigable b where
  toCoherent := h
  sideways now key hkey hused := by
    have hescape : key ≠ .escape := by
      rcases hkey with rfl | rfl
      · exact Press.noConfusion
      · exact Press.noConfusion
    apply h.exists_entry
    intro hnil
    rw [press_of_not_ready hescape fun hshown => hshown.2 hnil] at hused
    cases hused
  activates hready hne := by
    obtain ⟨hit, hhit⟩ := h.exists_hit hready hne
    have hactivate : b.activate = ([.navigate hit.anchor], some hit.anchor) := by
      rw [activate, hhit]
    exact ⟨hit, hhit, hactivate, fun now => by rw [press_enter hready hne, hactivate]⟩
  rests hnone := by
    have hhit := hit?_eq_none hnone
    exact ⟨hhit, by rw [activate, hhit], fun now => press_of_not_ready Press.noConfusion hnone⟩

/-! ## Runs -/

variable [Zero τ] [LT τ] [DecidableLT τ] [LE τ] [DecidableLE τ]

namespace Run

theorem step_coherent (r : Run τ) (e : Event τ) (h : Coherent r.box) :
    Coherent (r.step e).box := by
  cases e with
  | setQuery now text => exact .setQuery r.box now text
  | clear now => exact .setQuery r.box now ""
  | press now key =>
      rw [(step_press_eq r now key).1]
      exact h.press now key
  | activate => exact h
  | poll now timeout reply => exact h.poll (engine now reply) r.ledger now timeout
  | finish search outcome =>
      rw [step]
      split
      · exact h
      · exact h.withInbox _ _

/-- After any run the fields of the box fit together, and keys find what they look for. -/
theorem after_navigable (debounce : τ) (events : List (Event τ)) :
    Navigable ((start debounce).after events).box :=
  (after_induction (motive := fun r => Coherent r.box) (.start debounce) step_coherent
    events).navigable

end Run

end SearchBox

end DocIndex
