import DocIndex.Proofs.Decimal.Rounding
import DocIndex.Proofs.Outcomes
import DocIndex.Proofs.Text.CodePoints
import DocIndex.Settings.File

/-! # The settings that a file chooses

A field chooses a setting if it holds a valid value for it, whatever the other fields hold, and
all that is chosen so is valid together with the defaults of the rest. There are two kinds of
seconds that are not seen to be invalid: those that are no number, which are taken over, and whole
numbers beyond all doubles, at which the reading breaks off.
-/

namespace DocIndex

open Text

namespace Settings

/-! ## Valid settings -/

/-- The settings can be used: they give times to wait, a length that a query can have, and the
name of a section. -/
structure IsValid (s : Settings) : Prop where
  debounce : 0 ≤ s.debounce
  minLength : 1 ≤ s.minLength
  timeout : 0 < s.timeout
  named : s.sectionText ≠ ⟨[]⟩
  stripped : s.sectionText.strip = s.sectionText

theorem default_isValid : default.IsValid where
  debounce := by decide +kernel
  minLength := by decide
  timeout := by decide +kernel
  named := by decide
  stripped := by decide

/-! ## Valid fields -/

/-- The seconds that a value gives: those above zero, and zero if it is allowed. -/
def seconds? (allowZero : Bool) : Json → Option Float
  | .int n => if 0 < n ∨ n = 0 ∧ allowZero then Decimal.intToFloat? n else none
  | .float x => if 0 < x ∨ x == 0 ∧ allowZero then some x else none
  | _ => none

/-- The length that a value gives, from one on. -/
def minLength? : Json → Option Int
  | .int n => if 1 ≤ n then some n else none
  | _ => none

/-- The name that a value gives when it is stripped, if something is left. -/
def section? : Json → Option CodePoints
  | .text s => if s.strip = ⟨[]⟩ then none else some s.strip
  | _ => none

/-- The settings chosen by fields: each by the field of its own if that is valid, and else the
default. -/
def chosen (fields : Json.Fields) : Settings where
  debounce := ((fields.get? debounceField).bind (seconds? true)).getD defaultDebounce
  minLength := ((fields.get? minLengthField).bind minLength?).getD Query.defaultLength
  timeout := ((fields.get? timeoutField).bind (seconds? false)).getD WebSource.defaultTimeout
  sectionText := ((fields.get? sectionField).bind section?).getD defaultSection

/-- What is asked of seconds: a double must be a number, and a whole number not beyond all
doubles. -/
def InRange : Json → Prop
  | .int n => n < Decimal.wholeLimit
  | .float x => x ≠ Float.nan
  | _ => True

instance : DecidablePred InRange
  | .int n => inferInstanceAs (Decidable (n < Decimal.wholeLimit))
  | .float x => inferInstanceAs (Decidable (x ≠ Float.nan))
  | .null | .bool _ | .text _ | .array _ | .object _ => isTrue trivial

/-- What is chosen has a property that the default and all valid values have. -/
theorem getD_of_valid {α β : Type} {P : β → Prop} {v? : Option α} {valid? : α → Option β} {d : β}
    (hdefault : P d) (hvalid : ∀ v b, valid? v = some b → P b) : P ((v?.bind valid?).getD d) := by
  cases hb : v?.bind valid? with
  | none => exact hdefault
  | some b =>
      obtain ⟨v, -, hv⟩ := Option.bind_eq_some_iff.mp hb
      exact hvalid v b hv

theorem nonneg_of_seconds? {allowZero : Bool} {v : Json} {x : Float}
    (h : seconds? allowZero v = some x) : 0 ≤ x := by
  cases v with
  | int n =>
      simp only [seconds?, Option.ite_none_right_eq_some] at h
      obtain ⟨hn | ⟨rfl, -⟩, hx⟩ := h
      · exact Decimal.nonneg_of_pos (Decimal.pos_of_intToFloat? hn hx)
      · rw [Decimal.intToFloat?_zero] at hx
        cases hx
        decide +kernel
  | float y =>
      simp only [seconds?, Option.ite_none_right_eq_some, Option.some.injEq] at h
      obtain ⟨hy, rfl⟩ := h
      exact Decimal.nonneg_iff_pos_or_zero.mpr (hy.imp_right And.left)
  | _ => cases h

theorem pos_of_seconds? {v : Json} {x : Float} (h : seconds? false v = some x) : 0 < x := by
  cases v with
  | int n =>
      simp only [seconds?, Option.ite_none_right_eq_some, Bool.false_eq_true, and_false,
        or_false] at h
      exact Decimal.pos_of_intToFloat? h.1 h.2
  | float y =>
      simp only [seconds?, Option.ite_none_right_eq_some, Bool.false_eq_true, and_false, or_false,
        Option.some.injEq] at h
      obtain ⟨hy, rfl⟩ := h
      exact hy
  | _ => cases h

theorem one_le_of_minLength? {v : Json} {n : Int} (h : minLength? v = some n) : 1 ≤ n := by
  cases v with
  | int m =>
      simp only [minLength?, Option.ite_none_right_eq_some, Option.some.injEq] at h
      obtain ⟨hm, rfl⟩ := h
      exact hm
  | _ => cases h

theorem section?_eq_some {v : Json} {name : CodePoints} (h : section? v = some name) :
    name ≠ ⟨[]⟩ ∧ name.strip = name := by
  cases v with
  | text s =>
      simp only [section?, Option.ite_none_left_eq_some, Option.some.injEq] at h
      obtain ⟨hs, rfl⟩ := h
      exact ⟨hs, CodePoints.strip_strip s⟩
  | _ => cases h

theorem chosen_isValid (fields : Json.Fields) : (chosen fields).IsValid where
  debounce := getD_of_valid default_isValid.debounce fun _ _ => nonneg_of_seconds?
  minLength := getD_of_valid default_isValid.minLength fun _ _ => one_le_of_minLength?
  timeout := getD_of_valid default_isValid.timeout fun _ _ => pos_of_seconds?
  named := getD_of_valid (P := fun name : CodePoints => name ≠ ⟨[]⟩) default_isValid.named
    fun _ _ h => (section?_eq_some h).1
  stripped := getD_of_valid (P := fun name => name.strip = name) default_isValid.stripped
    fun _ _ h => (section?_eq_some h).2

/-! ## What is read -/

theorem readMinLength_eq (v? : Option Json) :
    readMinLength v? = (v?.bind minLength?).getD Query.defaultLength := by
  cases v? with
  | none => rfl
  | some v =>
      cases v with
      | int n =>
          by_cases hn : 1 ≤ n
          · simp [readMinLength, minLength?, hn, not_lt.mpr hn]
          · simp [readMinLength, minLength?, hn, not_le.mp hn]
      | _ => rfl

theorem readSection_eq (v? : Option Json) :
    readSection v? = (v?.bind section?).getD defaultSection := by
  cases v? with
  | none => rfl
  | some v =>
      cases v with
      | text s =>
          simp only [readSection, section?, Option.bind_some]
          generalize s.strip = name
          obtain ⟨points⟩ := name
          cases points with
          | nil => rfl
          | cons n points => simp
      | _ => rfl

variable {d : Float} {allowZero : Bool} {v? : Option Json}

theorem readSeconds_int {n : Int} (hn : 0 < n ∨ n = 0 ∧ allowZero) :
    readSeconds d allowZero (some (.int n)) = secondsOfInt n := by
  have hnot : ¬(n < 0 ∨ n = 0 ∧ (!allowZero) = true) := by
    rcases hn with hn | ⟨rfl, rfl⟩
    · omega
    · simp
  simp only [readSeconds, if_neg hnot]

theorem readSeconds_int_of_not {n : Int} (hn : ¬(0 < n ∨ n = 0 ∧ allowZero)) :
    readSeconds d allowZero (some (.int n)) = .ok d := by
  have hinvalid : n < 0 ∨ n = 0 ∧ (!allowZero) = true := by
    rw [Bool.not_eq_true', ← Bool.not_eq_true]
    by_cases hzero : n = 0
    · exact .inr ⟨hzero, fun hallow => hn (.inr ⟨hzero, hallow⟩)⟩
    · left
      omega
  simp only [readSeconds, if_pos hinvalid]

theorem readSeconds_float {x : Float} (hx : 0 < x ∨ x == 0 ∧ allowZero) :
    readSeconds d allowZero (some (.float x)) = .ok x := by
  have hnot : ¬x < 0 := by
    rw [Decimal.not_neg_iff, Decimal.nonneg_iff_pos_or_zero]
    exact .inl (hx.imp_right And.left)
  have hzero : (x == 0 && !allowZero) = false := by
    rcases hx with hx | ⟨-, rfl⟩
    · simp [Decimal.beq_zero_of_pos hx]
    · simp
  simp [readSeconds, hnot, hzero]

/-- A number that is not valid is replaced, but not what is no number. -/
theorem readSeconds_float_of_not {x : Float} (hx : ¬(0 < x ∨ x == 0 ∧ allowZero)) :
    readSeconds d allowZero (some (.float x)) = .ok (if x = Float.nan then x else d) := by
  by_cases hnan : x = Float.nan
  · have hside := Decimal.eq_nan_iff.mp hnan
    have hneg : ¬x < 0 := by simp [Decimal.neg_iff, hside]
    have hzero : (x == 0) = false := by
      rw [← Bool.not_eq_true, Decimal.beq_zero_iff, hside]
      simp
    rw [if_pos hnan]
    simp [readSeconds, hneg, hzero]
  · by_cases hneg : x < 0
    · simp [readSeconds, hneg, hnan]
    · have hsign := (Decimal.not_neg_iff.mp hneg).resolve_right hnan
      have hzero : (x == 0) = true :=
        (Decimal.nonneg_iff_pos_or_zero.mp hsign).resolve_left fun h => hx (.inl h)
      have hallow : allowZero = false := by
        rw [← Bool.not_eq_true]
        exact fun h => hx (.inr ⟨hzero, h⟩)
      simp [readSeconds, hzero, hallow, hnan]

theorem secondsOfInt_eq_ok_iff {n : Int} {x : Float} :
    secondsOfInt n = .ok x ↔ Decimal.intToFloat? n = some x := by
  unfold secondsOfInt
  cases Decimal.intToFloat? n <;> simp

/-- Seconds are read as they are chosen exactly if they are in range. -/
theorem readSeconds_eq_ok_iff (hd : d ≠ Float.nan) :
    readSeconds d allowZero v? = .ok ((v?.bind (seconds? allowZero)).getD d) ↔
      ∀ v ∈ v?, InRange v := by
  cases v? with
  | none => simp [readSeconds]
  | some v =>
      simp only [Option.mem_some_iff, forall_eq', Option.bind_some]
      cases v with
      | int n =>
          by_cases hn : 0 < n ∨ n = 0 ∧ allowZero
          · rw [readSeconds_int hn, secondsOfInt_eq_ok_iff]
            simp only [seconds?, if_pos hn, InRange]
            rw [← Decimal.intToFloat?_ne_none_iff (by omega)]
            cases Decimal.intToFloat? n <;> simp
          · have hlimit := Decimal.wholeLimit_pos
            rw [readSeconds_int_of_not hn]
            simp only [seconds?, if_neg hn, InRange, Option.getD_none, true_iff]
            omega
      | float x =>
          by_cases hx : 0 < x ∨ x == 0 ∧ allowZero
          · have hnan := Decimal.ne_nan_of_nonneg
              (Decimal.nonneg_iff_pos_or_zero.mpr (hx.imp_right And.left))
            rw [readSeconds_float hx]
            simp [seconds?, if_pos hx, InRange, hnan]
          · rw [readSeconds_float_of_not hx]
            simp only [seconds?, if_neg hx, Option.getD_none, InRange, Except.ok.injEq]
            by_cases hnan : x = Float.nan
            · rw [if_pos hnan]
              exact ⟨fun h => absurd (h.symm.trans hnan) hd, absurd hnan⟩
            · simp [hnan]
      | _ => simp [readSeconds, seconds?, InRange]

theorem secondsOfInt_eq_error_iff {n : Int} {f : Fault} :
    secondsOfInt n = .error f ↔ f = tooLarge ∧ Decimal.intToFloat? n = none := by
  unfold secondsOfInt
  cases Decimal.intToFloat? n <;> simp [eq_comm]

/-- The reading breaks off only at a whole number beyond all doubles. -/
theorem readSeconds_eq_error_iff {f : Fault} :
    readSeconds d allowZero v? = .error f ↔
      f = tooLarge ∧ ∃ n : Int, v? = some (.int n) ∧ Decimal.wholeLimit ≤ n := by
  have hlimit := Decimal.wholeLimit_pos
  cases v? with
  | none => simp [readSeconds]
  | some v =>
      cases v with
      | int n =>
          by_cases hn : 0 < n ∨ n = 0 ∧ allowZero
          · rw [readSeconds_int hn, secondsOfInt_eq_error_iff, Decimal.intToFloat?_eq_none_iff]
            simp only [Option.some.injEq, Json.int.injEq, exists_eq_left']
            exact and_congr_right fun _ => by omega
          · rw [readSeconds_int_of_not hn]
            simp only [Option.some.injEq, Json.int.injEq, exists_eq_left', reduceCtorEq,
              false_iff, not_and]
            intro _
            omega
      | _ => simp [readSeconds]

/-- Seconds that are read are those chosen, unless they are no number. -/
theorem eq_chosen_iff_of_readSeconds {x : Float} (hd : d ≠ Float.nan)
    (h : readSeconds d allowZero v? = .ok x) :
    x = (v?.bind (seconds? allowZero)).getD d ↔ v? ≠ some (.float Float.nan) := by
  have hread : x = (v?.bind (seconds? allowZero)).getD d ↔ ∀ v ∈ v?, InRange v := by
    rw [← readSeconds_eq_ok_iff hd, h, Except.ok.injEq]
  rw [hread]
  constructor
  · rintro hrange rfl
    exact hrange _ rfl rfl
  · intro hnumber v hv
    cases v with
    | int n =>
        by_contra hlarge
        rw [readSeconds_eq_error_iff.mpr ⟨rfl, n, hv, not_lt.mp hlarge⟩] at h
        cases h
    | float y =>
        rintro rfl
        exact hnumber hv
    | _ => trivial

/-! ## All settings -/

/-- Each of the settings is what the field of its own chooses, whatever the others hold. Only
seconds that are no number are taken over as they are. -/
structure TakenFrom (s : Settings) (fields : Json.Fields) : Prop where
  debounce : s.debounce = (chosen fields).debounce ↔
    fields.get? debounceField ≠ some (.float Float.nan)
  minLength : s.minLength = (chosen fields).minLength
  timeout : s.timeout = (chosen fields).timeout ↔
    fields.get? timeoutField ≠ some (.float Float.nan)
  sectionText : s.sectionText = (chosen fields).sectionText

theorem defaultDebounce_ne_nan : defaultDebounce ≠ Float.nan :=
  Decimal.ne_nan_of_nonneg default_isValid.debounce

theorem defaultTimeout_ne_nan : WebSource.defaultTimeout ≠ Float.nan :=
  Decimal.ne_nan_of_nonneg (Decimal.nonneg_of_pos default_isValid.timeout)

/-- The fields that hold seconds. -/
def secondsFields : List CodePoints := [debounceField, timeoutField]

theorem ofFields_eq_ok_iff {fields : Json.Fields} {s : Settings} :
    ofFields fields = .ok s ↔
      readSeconds defaultDebounce true (fields.get? debounceField) = .ok s.debounce ∧
        readSeconds WebSource.defaultTimeout false (fields.get? timeoutField) = .ok s.timeout ∧
        s.minLength = (chosen fields).minLength ∧ s.sectionText = (chosen fields).sectionText := by
  simp only [ofFields, bind_eq_ok_iff, readMinLength_eq, readSection_eq]
  constructor
  · rintro ⟨debounce, hdebounce, timeout, htimeout, hs⟩
    cases hs
    exact ⟨hdebounce, htimeout, rfl, rfl⟩
  · rintro ⟨hdebounce, htimeout, hlength, hsection⟩
    refine ⟨_, hdebounce, _, htimeout, ?_⟩
    cases s
    cases hlength
    cases hsection
    rfl

theorem takenFrom_of_ofFields {fields : Json.Fields} {s : Settings}
    (h : ofFields fields = .ok s) : s.TakenFrom fields := by
  obtain ⟨hdebounce, htimeout, hlength, hsection⟩ := ofFields_eq_ok_iff.mp h
  exact {
    debounce := eq_chosen_iff_of_readSeconds defaultDebounce_ne_nan hdebounce
    minLength := hlength
    timeout := eq_chosen_iff_of_readSeconds defaultTimeout_ne_nan htimeout
    sectionText := hsection }

/-- The settings are read as they are chosen exactly if all seconds are in range. -/
theorem ofFields_eq_chosen_iff (fields : Json.Fields) :
    ofFields fields = .ok (chosen fields) ↔
      ∀ name ∈ secondsFields, ∀ v ∈ fields.get? name, InRange v := by
  simp only [ofFields_eq_ok_iff, and_true, secondsFields, List.forall_mem_cons, List.not_mem_nil,
    false_implies, implies_true]
  exact and_congr (readSeconds_eq_ok_iff defaultDebounce_ne_nan)
    (readSeconds_eq_ok_iff defaultTimeout_ne_nan)

/-- The reading breaks off exactly if some seconds are a whole number beyond all doubles. -/
theorem ofFields_eq_error_iff {fields : Json.Fields} {f : Fault} :
    ofFields fields = .error f ↔ f = tooLarge ∧ ∃ name ∈ secondsFields, ∃ n : Int,
      fields.get? name = some (.int n) ∧ Decimal.wholeLimit ≤ n := by
  simp only [secondsFields, List.exists_mem_cons_iff, List.not_mem_nil, false_and, exists_false,
    or_false]
  constructor
  · intro h
    rcases bind_eq_error_iff.mp h with h | ⟨debounce, -, h⟩
    · obtain ⟨hf, hlarge⟩ := readSeconds_eq_error_iff.mp h
      exact ⟨hf, .inl hlarge⟩
    · rcases bind_eq_error_iff.mp h with h | ⟨timeout, -, h⟩
      · obtain ⟨hf, hlarge⟩ := readSeconds_eq_error_iff.mp h
        exact ⟨hf, .inr hlarge⟩
      · cases h
  · rintro ⟨rfl, h⟩
    cases hdebounce : readSeconds defaultDebounce true (fields.get? debounceField) with
    | error f =>
        obtain ⟨rfl, -⟩ := readSeconds_eq_error_iff.mp hdebounce
        exact bind_eq_error_iff.mpr (.inl hdebounce)
    | ok debounce =>
        refine bind_eq_error_iff.mpr
          (.inr ⟨debounce, hdebounce, bind_eq_error_iff.mpr (.inl ?_)⟩)
        rcases h with h | h
        · rw [readSeconds_eq_error_iff.mpr ⟨rfl, h⟩] at hdebounce
          cases hdebounce
        · exact readSeconds_eq_error_iff.mpr ⟨rfl, h⟩

end Settings

namespace SettingsFile

/-- Whatever is found at the path of the settings file, what it chooses is valid, and this is
what is read unless some seconds are no number or beyond all doubles. In the first case only these
seconds are not as they are chosen, in the second nothing is read. -/
theorem settings_chosen (f : SettingsFile) :
    (Settings.chosen f.fields).IsValid ∧
      (f.settings = .ok (Settings.chosen f.fields) ↔
        ∀ name ∈ Settings.secondsFields, ∀ v ∈ f.fields.get? name, Settings.InRange v) ∧
      (∀ s, f.settings = .ok s → s.TakenFrom f.fields) ∧
      ∀ fault, f.settings = .error fault ↔
        fault = Settings.tooLarge ∧ ∃ name ∈ Settings.secondsFields, ∃ n : Int,
          f.fields.get? name = some (.int n) ∧ Decimal.wholeLimit ≤ n :=
  ⟨Settings.chosen_isValid f.fields, Settings.ofFields_eq_chosen_iff f.fields,
    fun _ => Settings.takenFrom_of_ofFields, fun _ => Settings.ofFields_eq_error_iff⟩

/-- A file with valid seconds, a length that is none, no seconds to wait, and a name with white
space around it. -/
def mixed : SettingsFile :=
  .file (Utf8.encode (["\x7b\"debounce_seconds\": 2, \"min_query_length\": \"three\",",
    "\"fetch_timeout_seconds\": 0, \"index_section\": \" classes \"\x7d"].flatMap String.toList))

theorem settings_chosen_mixed :
    mixed.settings = .ok ⟨2.0, 1, 10.0, .ofString "classes"⟩ := by
  have hrange : ∀ name ∈ Settings.secondsFields, ∀ v ∈ mixed.fields.get? name,
      Settings.InRange v := by decide +kernel
  have hchosen : Settings.chosen mixed.fields = ⟨2.0, 1, 10.0, .ofString "classes"⟩ := by
    rw [Settings.chosen, Settings.mk.injEq]
    decide +kernel
  rw [(settings_chosen mixed).2.1.mpr hrange, hchosen]

/-- A file with seconds that are no number. -/
def numberless : SettingsFile :=
  .file (Utf8.encode "\x7b\"debounce_seconds\": NaN\x7d".toList)

/-- A file with a whole number of seconds that has 310 digits. -/
def boundless : SettingsFile :=
  .file (Utf8.encode ("\x7b\"fetch_timeout_seconds\": 1".toList ++ List.replicate 309 '0' ++
    ['\x7d']))

/-- Seconds that are no number are taken over, and a number beyond all doubles breaks the reading
off. -/
theorem invalid_seconds_read :
    (∃ s, numberless.settings = .ok s ∧ ¬0 ≤ s.debounce) ∧
      boundless.settings = .error Settings.tooLarge := by
  constructor
  · have hread : numberless.settings.toOption.map (fun s => decide (s.debounce = Float.nan)) =
        some true := by decide +kernel
    obtain ⟨s, hs, hnan⟩ := exists_ok_of_map hread
    exact ⟨s, hs, fun h => Decimal.ne_nan_of_nonneg h (of_decide_eq_true hnan)⟩
  · have hbreaks : boundless.settings.toOption.isNone = true := by decide +kernel
    cases hread : boundless.settings with
    | ok s =>
        rw [hread] at hbreaks
        cases hbreaks
    | error fault => rw [(Settings.ofFields_eq_error_iff.mp hread).1]

end SettingsFile

end DocIndex
