import DocIndex.Proofs.Json.Fields
import DocIndex.Proofs.Settings.Chosen
import DocIndex.Proofs.Text.Encoding

/-! # Settings that are saved

Valid settings that are saved are the ones that are read afterwards. They are set in the object
that the file held before and nothing else of it changes, so saving them once more changes nothing
at all. All this supposes that the file can be written and that the object is read back from what
is written of it.
-/

namespace DocIndex

open Text

/-- The value is read back from what is written of it. -/
def Json.ReadsBack (v : Json) : Prop := Json.read? (Json.write 0 v ++ ['\n']) = some v

namespace Settings

/-! ## Settings among other fields -/

/-- The fields that hold settings. -/
def ownFields : List CodePoints := [debounceField, minLengthField, timeoutField, sectionField]

/-- The field is not one of those that hold settings. -/
def isOther (name : CodePoints) : Bool := decide (name ∉ ownFields)

/-- The fields with the settings set among them. -/
def setIn (s : Settings) (fields : Json.Fields) : Json.Fields :=
  (((fields.set debounceField (.float s.debounce)).set minLengthField (.int s.minLength)).set
    timeoutField (.float s.timeout)).set sectionField (.text s.sectionText)

/-- The settings stand among the fields. -/
structure StandIn (s : Settings) (fields : Json.Fields) : Prop where
  debounce : fields.get? debounceField = some (.float s.debounce)
  minLength : fields.get? minLengthField = some (.int s.minLength)
  timeout : fields.get? timeoutField = some (.float s.timeout)
  sectionText : fields.get? sectionField = some (.text s.sectionText)

/-- The settings stand among the fields `after`, which are the fields `before` in all else. -/
structure SetsOnly (s : Settings) (before after : Json.Fields) : Prop extends StandIn s after where
  /-- The other fields keep their values and their order. -/
  others : after.filter (fun field => isOther field.1) =
    before.filter fun field => isOther field.1
  /-- All fields stay where they are, and those that are new come last. -/
  names : before.map (·.1) <+: after.map (·.1)

variable {s : Settings} {fields : Json.Fields}

theorem standIn_setIn (s : Settings) (fields : Json.Fields) : s.StandIn (s.setIn fields) where
  debounce := by
    rw [setIn, Json.Fields.get?_set_of_ne (by decide), Json.Fields.get?_set_of_ne (by decide),
      Json.Fields.get?_set_of_ne (by decide), Json.Fields.get?_set_self]
  minLength := by
    rw [setIn, Json.Fields.get?_set_of_ne (by decide), Json.Fields.get?_set_of_ne (by decide),
      Json.Fields.get?_set_self]
  timeout := by
    rw [setIn, Json.Fields.get?_set_of_ne (by decide), Json.Fields.get?_set_self]
  sectionText := by rw [setIn, Json.Fields.get?_set_self]

theorem setsOnly_setIn (s : Settings) (fields : Json.Fields) :
    s.SetsOnly fields (s.setIn fields) where
  toStandIn := standIn_setIn s fields
  others := by
    rw [setIn, Json.Fields.filter_set (by decide), Json.Fields.filter_set (by decide),
      Json.Fields.filter_set (by decide), Json.Fields.filter_set (by decide)]
  names := by
    simp only [setIn]
    exact (Json.Fields.names_prefix_set ..).trans <| (Json.Fields.names_prefix_set ..).trans <|
      (Json.Fields.names_prefix_set ..).trans (Json.Fields.names_prefix_set ..)

/-- Settings that stand among the fields need not be set. -/
theorem StandIn.setIn_eq (h : s.StandIn fields) : s.setIn fields = fields := by
  rw [setIn, Json.Fields.set_eq_self h.debounce, Json.Fields.set_eq_self h.minLength,
    Json.Fields.set_eq_self h.timeout, Json.Fields.set_eq_self h.sectionText]

/-- Valid settings that stand among the fields are chosen by them. -/
theorem StandIn.chosen_eq (h : s.StandIn fields) (hs : s.IsValid) : chosen fields = s := by
  have hdebounce : 0 < s.debounce ∨ (s.debounce == 0) = true :=
    Decimal.nonneg_iff_pos_or_zero.mp hs.debounce
  simp [chosen, h.debounce, h.minLength, h.timeout, h.sectionText, seconds?, minLength?, section?,
    hdebounce, hs.minLength, hs.timeout, hs.stripped, hs.named]

theorem StandIn.ofFields_eq (h : s.StandIn fields) (hs : s.IsValid) : ofFields fields = .ok s := by
  have hrange : ∀ name ∈ secondsFields, ∀ v ∈ fields.get? name, InRange v := by
    simp only [secondsFields, List.forall_mem_cons, h.debounce, h.timeout, Option.mem_some_iff,
      forall_eq', List.not_mem_nil, false_implies, implies_true, and_true]
    exact ⟨Decimal.ne_nan_of_nonneg hs.debounce,
      Decimal.ne_nan_of_nonneg (Decimal.nonneg_of_pos hs.timeout)⟩
  rw [(ofFields_eq_chosen_iff fields).mpr hrange, h.chosen_eq hs]

/-! ## What is saved of settings -/

/-- The settings as they are saved: a negative zero becomes a positive one. -/
def settled (s : Settings) : Settings := { s with debounce := atLeastZero s.debounce }

/-- The settings are equal, zeros of either sign counting as equal. -/
structure Same (s t : Settings) : Prop where
  debounce : s.debounce == t.debounce
  minLength : s.minLength = t.minLength
  timeout : s.timeout = t.timeout
  sectionText : s.sectionText = t.sectionText

theorem atLeastZero_cases {x : Float} (h : 0 ≤ x) :
    atLeastZero x = x ∨ atLeastZero x = 0 ∧ x = -0 := by
  by_cases hpos : 0 < x
  · exact .inl (if_pos hpos)
  · have hzero : atLeastZero x = 0 := if_neg hpos
    rcases Decimal.eq_zero_of_beq ((Decimal.nonneg_iff_pos_or_zero.mp h).resolve_left hpos)
      with rfl | rfl
    · exact .inl hzero
    · exact .inr ⟨hzero, rfl⟩

theorem nonneg_atLeastZero {x : Float} (h : 0 ≤ x) : 0 ≤ atLeastZero x := by
  rcases atLeastZero_cases h with hx | ⟨hx, -⟩
  · rwa [hx]
  · rw [hx]
    decide +kernel

theorem atLeastZero_beq {x : Float} (h : 0 ≤ x) : (atLeastZero x == x) = true := by
  rcases atLeastZero_cases h with hx | ⟨hx, rfl⟩
  · rw [hx, Float.beq_self_iff]
    exact Decimal.ne_nan_of_nonneg h
  · rw [hx]
    decide +kernel

theorem IsValid.settled (hs : s.IsValid) : s.settled.IsValid :=
  { hs with debounce := nonneg_atLeastZero hs.debounce }

theorem IsValid.settled_same (hs : s.IsValid) : s.settled.Same s where
  debounce := atLeastZero_beq hs.debounce
  minLength := rfl
  timeout := rfl
  sectionText := rfl

theorem IsValid.settled_eq (hs : s.IsValid) (h : s.debounce ≠ -0) : s.settled = s := by
  have hdebounce := (atLeastZero_cases hs.debounce).resolve_right fun hzero => h hzero.2
  simp only [Settings.settled, hdebounce]

theorem IsValid.merge_eq (hs : s.IsValid) (fields : Json.Fields) :
    s.toDraft.merge fields = .ok (s.settled.setIn fields) := by
  have hlength : max 1 s.minLength = s.minLength := max_eq_right hs.minLength
  have hsection : readSection (some (.text s.sectionText)) = s.sectionText := by
    simp [readSection_eq, section?, hs.stripped, hs.named]
  simp only [Draft.merge, toDraft, Json.toSeconds, Json.toWhole, bind, Except.bind, pure,
    Except.pure, hlength, hsection, setIn, Settings.settled]

end Settings

namespace SettingsFile

/-- A file can be written at the path. -/
def IsWritable : SettingsFile → Prop
  | missing | file _ => True
  | folder | blocked => False

/-- What has been written is what was to be written. -/
theorem fields_write {f : SettingsFile} (hf : f.IsWritable) {fields : Json.Fields}
    (hreads : Json.ReadsBack (.object fields)) : (f.write fields).fields = fields := by
  have hvalue : (f.write fields).value? = some (.object fields) := by
    cases f with
    | missing | file bytes =>
        simp only [write, value?, bytes?, Option.bind_some, Utf8.decode_encode, Except.toOption]
        exact hreads
    | folder | blocked => exact hf.elim
  rw [SettingsFile.fields, hvalue]

theorem write_write (f : SettingsFile) (fields : Json.Fields) :
    (f.write fields).write fields = f.write fields := by
  cases f <;> rfl

/-- Saved settings are read back, nothing else of the object changes, and saving them again
leaves the file as it is. A negative zero is read back as a positive one. -/
theorem save_restores (f : SettingsFile) {s : Settings} (hs : s.IsValid) (hf : f.IsWritable)
    (hreads : Json.ReadsBack (.object (s.settled.setIn f.fields))) :
    ∃ g t, f.save s.toDraft = .ok g ∧ g.settings = .ok t ∧ t.Same s ∧
      (s.debounce ≠ -0 → t = s) ∧ t.SetsOnly f.fields g.fields ∧ g.save s.toDraft = .ok g := by
  have hfields := fields_write hf hreads
  have hset := Settings.setsOnly_setIn s.settled f.fields
  refine ⟨f.write (s.settled.setIn f.fields), s.settled, ?_, ?_, hs.settled_same,
    hs.settled_eq, ?_, ?_⟩
  · rw [save, hs.merge_eq]
    rfl
  · rw [settings, hfields]
    exact hset.ofFields_eq hs.settled
  · rwa [hfields]
  · rw [save, hs.merge_eq, hfields, hset.setIn_eq]
    exact congrArg Except.ok (write_write f _)

/-- A file with a field of others, and a field that holds a value of the wrong kind. -/
def themed : SettingsFile :=
  .file (Utf8.encode "\x7b\"theme\": \"dark\", \"min_query_length\": true\x7d".toList)

/-- Settings of a patient reader. -/
def patient : Settings := ⟨0.25, 2, 30.0, .ofString "classes"⟩

/-- What the file holds once these settings have been saved in it. -/
def themedAndPatient : List Char :=
  ["\x7b", "  \"theme\": \"dark\",", "  \"min_query_length\": 2,", "  \"debounce_seconds\": 0.25,",
    "  \"fetch_timeout_seconds\": 30.0,", "  \"index_section\": \"classes\"", "\x7d"].flatMap
    fun line => line.toList ++ ['\n']

theorem patient_isValid : patient.IsValid where
  debounce := by decide +kernel
  minLength := by decide
  timeout := by decide +kernel
  named := by decide
  stripped := by decide

set_option maxRecDepth 4000 in
theorem themed_readsBack : Json.ReadsBack (.object (patient.settled.setIn themed.fields)) := by
  have hwritten : Json.write 0 (.object (patient.settled.setIn themed.fields)) ++ ['\n'] =
      themedAndPatient := by decide +kernel
  rw [Json.ReadsBack, hwritten]
  rfl

theorem save_restores_themed :
    patient.IsValid ∧ themed.IsWritable ∧
      Json.ReadsBack (.object (patient.settled.setIn themed.fields)) ∧
      ∃ g t, themed.save patient.toDraft = .ok g ∧ g.settings = .ok t ∧ t.Same patient ∧
        (patient.debounce ≠ -0 → t = patient) ∧ t.SetsOnly themed.fields g.fields ∧
        g.save patient.toDraft = .ok g :=
  ⟨patient_isValid, trivial, themed_readsBack,
    save_restores themed patient_isValid trivial themed_readsBack⟩

end SettingsFile

end DocIndex
