import DocIndex.Proofs.SearchBox.Coherence

/-! # What is on display

A box is shown anew by rendering its frame. Whoever puts up each frame as it is rendered has the
frame of the box on display after every operation, and what is selected in it is there.
-/

namespace DocIndex

/-! ## Frames -/

/-- The frame that an effect renders. -/
def Effect.frame? : Effect → Option Frame
  | .render frame => some frame
  | .navigate _ => none

/-- The frames that are rendered, the oldest first. -/
def frames (effects : List Effect) : List Frame := effects.filterMap Effect.frame?

/-- What is on display after some effects, `f` being on display before. -/
def displayed (f : Frame) (effects : List Effect) : Frame := (frames effects).getLast?.getD f

@[simp] theorem frames_nil : frames [] = [] := rfl

theorem frames_append (effects others : List Effect) :
    frames (effects ++ others) = frames effects ++ frames others := List.filterMap_append

theorem displayed_append (f : Frame) (effects others : List Effect) :
    displayed f (effects ++ others) = displayed (displayed f effects) others := by
  rw [displayed, frames_append, List.getLast?_append]
  cases h : (frames others).getLast? with
  | none => simp [displayed, h]
  | some g => simp [displayed, h]

/-- Results are shown only when there is an answer, and what is selected is among them. -/
structure Frame.Sound (f : Frame) : Prop where
  results : f.results ≠ [] → f.phase = .ready
  unselected : f.results = [] → f.selected = 0 ∧ f.selectedHit = 0
  selected : f.results ≠ [] → Within f.selected f.results.length
  selectedHit : ∀ e, itemAt? f.results f.selected = some e → Within f.selectedHit e.hits.length

namespace SearchBox

variable {τ σ : Type} {b b' : SearchBox τ}

theorem Coherent.sound (h : Coherent b) : b.frame.Sound where
  results := h.results
  unselected := h.unselected
  selected := h.selected
  selectedHit := h.selectedHit

/-! ## Single operations -/

/-- An operation leaves the box as it is, or renders once what it has made of it. -/
def Redraws (b : SearchBox τ) (after : SearchBox τ × List Effect) : Prop :=
  after.1 = b ∧ frames after.2 = [] ∨ frames after.2 = [after.1.frame]

theorem redraws_shown (b b' : SearchBox τ) : Redraws b b'.shown := .inr rfl

theorem redraws_self (b : SearchBox τ) : Redraws b (b, []) := .inl ⟨rfl, rfl⟩

theorem frames_activate (b : SearchBox τ) : frames b.activate.1 = [] := by
  unfold activate
  split
  · rfl
  · rfl

theorem redraws_setQuery [Add τ] (b : SearchBox τ) (now : τ) (text : String) :
    Redraws b (b.setQuery now text) := by
  unfold setQuery
  dsimp only
  split
  · exact redraws_shown b _
  · exact redraws_shown b _

theorem redraws_moveEntry (b : SearchBox τ) (step : Int) : Redraws b (b.moveEntry step) := by
  unfold moveEntry
  dsimp only
  split
  · exact redraws_self b
  · exact redraws_shown b _

theorem redraws_moveHit (b : SearchBox τ) (step : Int) : Redraws b (b.moveHit step) := by
  unfold moveHit
  split
  · exact redraws_self b
  · dsimp only
    split
    · exact redraws_self b
    · exact redraws_shown b _

theorem redraws_press [Add τ] (b : SearchBox τ) (now : τ) (key : Press) :
    Redraws b ((b.press now key).1, (b.press now key).2.1) := by
  by_cases hkey : key = .escape
  · rw [hkey, press_escape]
    split
    · exact redraws_self b
    · exact redraws_setQuery b now ""
  · unfold press
    dsimp only
    rw [if_neg hkey]
    split
    · exact redraws_self b
    · cases key with
      | escape => exact absurd rfl hkey
      | up => exact redraws_moveEntry b (-1)
      | down => exact redraws_moveEntry b 1
      | left => exact redraws_moveHit b (-1)
      | right => exact redraws_moveHit b 1
      | enter => exact .inl ⟨rfl, frames_activate b⟩
      | other => exact redraws_self b

/-! ## The poll -/

/-- Looking at outcomes renders once if one of them counts, and else changes nothing. -/
theorem drain_redraws (b : SearchBox τ) :
    b.drain = (b.withCompletions [], [], false) ∨
      b.drain.2.2 = true ∧ frames b.drain.2.1 = [b.drain.1.frame] := by
  rw [drain_eq_decided]
  cases b.decisive? with
  | none => exact .inl rfl
  | some c =>
      refine .inr ⟨rfl, ?_⟩
      rcases accept_cases (b.withCompletions []) c.outcome with
        ⟨-, haccept⟩ | ⟨_, entries, -, -, haccept⟩
      · rw [decided, haccept]
        rfl
      · rw [decided, haccept]
        rfl

/-- A query that is issued is shown as loading, and if it fails at once it is then shown as that. -/
theorem frames_issue (b : SearchBox τ) (engine : Engine σ) (s : σ) :
    frames (b.issue engine s).2.2 = [b.begun.frame] ∧
        (b.issue engine s).2.1.frame = b.begun.frame ∨
      frames (b.issue engine s).2.2 = [b.begun.frame, (b.issue engine s).2.1.frame] := by
  rw [issue_eq]
  cases (engine s b.query).2 with
  | raised => exact .inr rfl
  | settled outcome => exact .inl ⟨rfl, rfl⟩
  | pending search => exact .inl ⟨rfl, rfl⟩

section Poll

variable [Zero τ] [LT τ] [DecidableLT τ] [LE τ] [DecidableLE τ]

theorem frames_poll (b : SearchBox τ) (engine : Engine σ) (s : σ) (now timeout : τ) :
    frames (b.poll engine s now timeout).effects =
      frames (b.issueDue engine s now).2.2 ++
        frames (b.issueDue engine s now).2.1.drain.2.1 := by
  rw [poll_eq_drain]
  exact frames_append _ _

/-- A poll says that something has changed if it has rendered, and only then. -/
theorem poll_changed_iff (b : SearchBox τ) (engine : Engine σ) (s : σ) (now timeout : τ) :
    (b.poll engine s now timeout).changed = true ↔
      frames (b.poll engine s now timeout).effects ≠ [] := by
  rw [frames_poll, poll_eq_drain, issueDue]
  cases hdue : b.isDue now with
  | true =>
      rcases frames_issue b engine s with ⟨hframes, -⟩ | hframes
      · simp [hframes]
      · simp [hframes]
  | false =>
      rcases drain_redraws b with hdrain | ⟨hchanged, hframes⟩
      · simp [hdrain]
      · simp [hchanged, hframes]

/-- A poll that says that nothing has changed has called nobody and looked at outcomes that do not
count. -/
theorem poll_of_not_changed {engine : Engine σ} {s : σ} {now timeout : τ}
    (h : (b.poll engine s now timeout).changed = false) :
    (b.poll engine s now timeout).box = b.withCompletions [] ∧
      (b.poll engine s now timeout).engine = s := by
  rw [poll_eq_drain] at h ⊢
  obtain ⟨hdue, hdrain⟩ := Bool.or_eq_false_iff.mp h
  rw [issueDue, hdue] at hdrain ⊢
  rcases drain_redraws b with hsame | ⟨hchanged, -⟩
  · exact ⟨congrArg Prod.fst hsame, rfl⟩
  · exact absurd hchanged (by simpa using hdrain)

end Poll

/-! ## What operations show -/

/-- After an operation the frame of the box is on display, and all frames that were rendered are
sound. -/
structure Shows (b : SearchBox τ) (after : SearchBox τ × List Effect) : Prop where
  current : after.1.frame = displayed b.frame after.2
  sound : ∀ f ∈ frames after.2, f.Sound

theorem Redraws.shows {after : SearchBox τ × List Effect} (h : Redraws b after)
    (hsound : after.1.frame.Sound) : Shows b after := by
  rcases h with ⟨hbox, hframes⟩ | hframes
  · exact ⟨by simp [displayed, hbox, hframes], by simp [hframes]⟩
  · exact ⟨by simp [displayed, hframes], by simpa [hframes] using hsound⟩

theorem Shows.trans {after : SearchBox τ} {effects : List Effect}
    {later : SearchBox τ × List Effect} (h : Shows b (after, effects)) (h' : Shows after later) :
    Shows b (later.1, effects ++ later.2) where
  current := by rw [displayed_append, ← h.current, h'.current]
  sound f hf := by
    rw [frames_append] at hf
    rcases List.mem_append.mp hf with hf | hf
    · exact h.sound f hf
    · exact h'.sound f hf

theorem Coherent.shows_drain (h : Coherent b) : Shows b (b.drain.1, b.drain.2.1) := by
  rcases drain_redraws b with hdrain | ⟨-, hframes⟩
  · rw [hdrain]
    exact ⟨rfl, by simp⟩
  · exact Redraws.shows (.inr hframes) h.drain.sound

theorem Coherent.shows_issue (h : Coherent b) (hphase : b.phase = .debouncing)
    (engine : Engine σ) (s : σ) : Shows b (b.issue engine s).2 := by
  have hbegun := (h.begun hphase).sound
  have hissue := (h.issue hphase engine s).sound
  rcases frames_issue b engine s with ⟨hframes, hframe⟩ | hframes
  · exact ⟨by simp [displayed, hframes, hframe], by simpa [hframes] using hbegun⟩
  · exact ⟨by simp [displayed, hframes], by simpa [hframes] using ⟨hbegun, hissue⟩⟩

theorem Coherent.shows_poll [Zero τ] [LT τ] [DecidableLT τ] [LE τ] [DecidableLE τ]
    (h : Coherent b) (engine : Engine σ) (s : σ) (now timeout : τ) :
    Shows b ((b.poll engine s now timeout).box, (b.poll engine s now timeout).effects) := by
  rw [poll_eq_drain, issueDue]
  cases hdue : b.isDue now with
  | true =>
      have hphase := (isDue_eq_true hdue).1
      exact (h.shows_issue hphase engine s).trans (h.issue hphase engine s).shows_drain
  | false => exact h.shows_drain

/-! ## Runs -/

variable [Zero τ] [Add τ] [LT τ] [DecidableLT τ] [LE τ] [DecidableLE τ]

namespace Run

theorem step_shows (r : Run τ) (e : Event τ) (h : Coherent r.box) :
    ∃ effects, (r.step e).effects = r.effects ++ effects ∧
      Shows r.box ((r.step e).box, effects) := by
  have hsound := (step_coherent r e h).sound
  cases e with
  | setQuery now text => exact ⟨_, rfl, (redraws_setQuery r.box now text).shows hsound⟩
  | clear now => exact ⟨_, rfl, (redraws_setQuery r.box now "").shows hsound⟩
  | press now key =>
      obtain ⟨hbox, heffects⟩ := step_press_eq r now key
      rw [hbox] at hsound ⊢
      exact ⟨_, heffects, (redraws_press r.box now key).shows hsound⟩
  | activate =>
      exact ⟨_, rfl, Redraws.shows (.inl ⟨rfl, frames_activate r.box⟩) hsound⟩
  | poll now timeout reply => exact ⟨_, rfl, h.shows_poll (engine now reply) r.ledger now timeout⟩
  | finish search outcome =>
      obtain ⟨hframe, -, heffects⟩ := step_finish r search outcome
      exact ⟨[], by rw [heffects, List.append_nil], hframe, by simp⟩

/-- A run that shows its box goes on to. -/
theorem step_coherent_shows {first : SearchBox τ} (r : Run τ) (e : Event τ)
    (h : Coherent r.box ∧ Shows first (r.box, r.effects)) :
    Coherent (r.step e).box ∧ Shows first ((r.step e).box, (r.step e).effects) := by
  obtain ⟨effects, heffects, hstep⟩ := step_shows r e h.1
  exact ⟨step_coherent r e h.1, heffects ▸ h.2.trans hstep⟩

/-- What is on display is the frame of the box, and polls tell when they render. -/
structure UpToDate (r : Run τ) : Prop where
  /-- The last frame that was rendered is that of the box; before any was, nothing is shown. -/
  current : r.box.frame = (frames r.effects).getLast?.getD ⟨.idle, "", [], 0, 0⟩
  /-- No frame was ever rendered with a selection that is not there. -/
  sound : ∀ f ∈ frames r.effects, f.Sound
  /-- A poll says that something has changed if it renders a frame, and only then. -/
  changed : ∀ {σ : Type} (engine : Engine σ) (s : σ) (now timeout : τ),
    (r.box.poll engine s now timeout).changed = true ↔
      frames (r.box.poll engine s now timeout).effects ≠ []
  /-- A poll that says that nothing has changed leaves all there is to the box but the outcomes
  that have come in and do not count. -/
  unchanged : ∀ {σ : Type} (engine : Engine σ) (s : σ) (now timeout : τ),
    (r.box.poll engine s now timeout).changed = false →
      (r.box.poll engine s now timeout).box = { r.box with completions := [] }

/-- After any run what is on display is the box as it is. -/
theorem after_up_to_date (debounce : τ) (events : List (Event τ)) :
    UpToDate ((start debounce).after events) := by
  have hstart : Shows (SearchBox.start debounce) ((start debounce).box, (start debounce).effects) :=
    ⟨rfl, by simp [start]⟩
  obtain ⟨-, hshows⟩ := after_induction
    (motive := fun r => Coherent r.box ∧ Shows (SearchBox.start debounce) (r.box, r.effects))
    ⟨.start debounce, hstart⟩ step_coherent_shows events
  exact {
    current := hshows.current
    sound := hshows.sound
    changed := fun engine s now timeout => poll_changed_iff _ engine s now timeout
    unchanged := fun engine s now timeout h => (poll_of_not_changed h).1 }

end Run

end SearchBox

end DocIndex
