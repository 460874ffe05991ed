import DocIndex.Proofs.Expression.Faults
import DocIndex.Proofs.PartitionFile.Isolation

/-! # Files without an array

A text that binds no array is not read, whatever partition it is for. The error is one of its
structure unless the text of the value is an expression whose value cannot be built, which is an
error of that value.
-/

namespace DocIndex

open Text

/-! ## The text of a value -/

namespace Literal

/-- The text has no value for this reason: the reader fails in itself, or it goes on and the text is
an expression whose value cannot be built. -/
inductive Thwarted [Reader] (s : List Char) : Fault → Prop
  | reader {message : String} (h : Reader.breakdown? s = some (.internal message)) :
      Thwarted s (.internal message)
  | value {e : Expression} {fault : Fault} (hroom : Reader.breakdown? s = Option.none)
      (he : expression? s = some e) (h : e.Stops fault) : Thwarted s fault

theorem Thwarted.ne_unreadable [Reader] {s : List Char} {fault : Fault} (h : Thwarted s fault) :
    fault ≠ .unreadable := by
  cases h with
  | reader => exact Fault.noConfusion
  | value _ _ h => exact h.ne_unreadable

/-- All faults but the one that the text is no literal come about in this way. -/
theorem read_eq_error_iff [Reader] {s : List Char} {fault : Fault} (hne : fault ≠ .unreadable) :
    read s = .error fault ↔ Thwarted s fault := by
  constructor
  · intro h
    unfold read at h
    split at h
    · cases h
      exact absurd rfl hne
    · rename_i message hbreakdown
      cases h
      exact .reader hbreakdown
    · rename_i hroom
      split at h
      · rename_i e he
        exact .value hroom he (Expression.stops_iff.mpr ⟨h, hne⟩)
      · cases h
        exact absurd rfl hne
  · intro h
    cases h with
    | reader hbreakdown => rw [read, hbreakdown]
    | value hroom he hstops =>
        rw [read, hroom, he]
        exact hstops.value

end Literal

namespace PartitionFile

section

variable [Literal.Reader]

/-- The text binds a name to something that has no value for this reason. -/
def Thwarted (text : String) (fault : Literal.Fault) : Prop :=
  ∃ name body, splitBinding? (unifyLineEnds text.toList) = some (name, body) ∧
    Literal.Thwarted (trimBody body) fault

/-! ## Errors of the binding -/

theorem readBinding_of_fault {s name body : List Char} {fault : Literal.Fault}
    (hsplit : splitBinding? s = some (name, body))
    (hread : Literal.read (trimBody body) = .error fault) :
    readBinding s = .error ((ReadError.ofValue? fault).getD
      (.unreadableArray (Literal.Reader.complaint (trimBody body)))) := by
  rw [readBinding, hsplit]
  dsimp only
  rw [hread]

/-- A binding is refused for its structure or for a value that cannot be built. -/
theorem isFormat_or_ofValue {s : List Char} {error : ReadError}
    (h : readBinding s = .error error) :
    error.isFormat = true ∨ ∃ name body fault, splitBinding? s = some (name, body) ∧
      Literal.read (trimBody body) = .error fault ∧ ReadError.ofValue? fault = some error := by
  cases hsplit : splitBinding? s with
  | none =>
      rw [readBinding, hsplit] at h
      cases h
      exact .inl rfl
  | some bound =>
      obtain ⟨name, body⟩ := bound
      cases hread : Literal.read (trimBody body) with
      | ok v =>
          rw [readBinding, hsplit] at h
          dsimp only at h
          rw [hread] at h
          cases v <;> cases h <;> exact .inl rfl
      | error fault =>
          rw [readBinding_of_fault hsplit hread] at h
          cases hvalue : ReadError.ofValue? fault with
          | none =>
              rw [hvalue] at h
              cases h
              exact .inl rfl
          | some e =>
              rw [hvalue] at h
              cases h
              exact .inr ⟨name, body, fault, rfl, hread, hvalue⟩

/-! ## Files -/

/-- The error of a text that is not read. It is one of the structure exactly if no value in the text
is thwarted, and else that of the value. -/
structure Refused (text : String) (error : ReadError) : Prop where
  structural : error.kind = "PartitionFormatError" ↔ ∀ fault, ¬Thwarted text fault
  thwarted : ∀ fault, Thwarted text fault → ReadError.ofValue? fault = some error

theorem refused_of_readBinding {text : String} {error : ReadError}
    (h : readBinding (unifyLineEnds text.toList) = .error error) : Refused text error := by
  have hthwarted : ∀ fault, Thwarted text fault → ReadError.ofValue? fault = some error := by
    rintro fault ⟨name, body, hsplit, hthwarted⟩
    obtain ⟨e, he⟩ := ReadError.exists_ofValue? hthwarted.ne_unreadable
    have hread := (Literal.read_eq_error_iff hthwarted.ne_unreadable).mpr hthwarted
    rw [readBinding_of_fault hsplit hread, he] at h
    exact he.trans (congrArg some (Except.error.inj h))
  refine ⟨(kind_eq_of_isFormat_iff error).trans ?_, hthwarted⟩
  constructor
  · intro hformat fault hfault
    rw [ReadError.isFormat_of_ofValue? (hthwarted fault hfault)] at hformat
    cases hformat
  · intro hnone
    rcases isFormat_or_ofValue h with hformat | ⟨name, body, fault, hsplit, hread, hvalue⟩
    · exact hformat
    · have hne : fault ≠ .unreadable := by
        rintro rfl
        cases hvalue
      exact absurd ⟨name, body, hsplit, (Literal.read_eq_error_iff hne).mp hread⟩ (hnone fault)

/-- A text that binds no array is refused. -/
theorem parse_refused {text : String} (partition? : Option Partition)
    (h : ∀ name records, ¬Binds text name records) :
    ∃ error, parse text partition? = .error error ∧ Refused text error := by
  cases hread : readBinding (unifyLineEnds text.toList) with
  | ok bound => exact absurd hread (h bound.1 bound.2)
  | error error =>
      refine ⟨error, ?_, refused_of_readBinding hread⟩
      rw [parse, hread]
      rfl

theorem not_binds_of_error {text : String} {error : ReadError}
    (h : readBinding (unifyLineEnds text.toList) = .error error) (name : String)
    (records : List Literal) : ¬Binds text name records := by
  intro hbinds
  rw [Binds, h] at hbinds
  cases hbinds

end

section

attribute [local instance] bulletReader

/-- A file that binds a dictionary. -/
def pairsText : String := "var searchData=\x7b'apple':[]\x7d;"

theorem parse_refused_pairs :
    (∀ name records, ¬Binds pairsText name records) ∧
      ∃ error, parse pairsText none = .error error ∧ Refused pairsText error := by
  have hread : failure? (readBinding (unifyLineEnds pairsText.toList)) =
      some (.notArray "dict") := by decide +kernel
  have hnone := not_binds_of_error (failure?_eq_some_iff.mp hread)
  exact ⟨hnone, parse_refused none hnone⟩

example : failure? (parse "var searchData=['\\N\x7bBULET\x7d'];" none) =
    some (.unreadableArray "") := by
  decide +kernel

example : failure? (parse "var searchData=[\x7b[1]:1\x7d,'\\N\x7bBULLET\x7d'];" none) =
    some (.unhashable "list") := by
  decide +kernel

/-- A file with an array in which a list is a key. -/
def listKeyText : String := "var searchData=[\x7b[1]:1\x7d];"

/-- The file binds no array, and its error is not one of the structure. -/
theorem list_key_not_structural :
    (∀ name records, ¬Binds listKeyText name records) ∧
      parse listKeyText none = .error (.unhashable "list") ∧
      ReadError.kind (.unhashable "list") = "TypeError" := by
  have hread : failure? (readBinding (unifyLineEnds listKeyText.toList)) =
      some (.unhashable "list") := by decide +kernel
  have herror := failure?_eq_some_iff.mp hread
  refine ⟨not_binds_of_error herror, ?_, rfl⟩
  rw [parse, herror]
  rfl

end

end PartitionFile

end DocIndex
