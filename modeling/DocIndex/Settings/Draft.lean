import DocIndex.Settings.Basic
import DocIndex.Text.Quoted

/-! # Settings to be saved

Settings to be saved may be any values. Numbers are made of them as far as possible, also of
texts; a value of which no number can be made is an error.
-/

namespace DocIndex

open Text

namespace Json

/-- The name of a value's type in messages. -/
def typeName : Json → String
  | null => "NoneType"
  | bool _ => "bool"
  | int _ => "int"
  | float _ => "float"
  | text _ => "str"
  | array _ => "list"
  | object _ => "dict"

/-- The double that a value is or writes. -/
def toSeconds (v : Json) : Except Fault Float :=
  match v with
  | bool b => .ok (if b then 1.0 else 0.0)
  | int n => Settings.secondsOfInt n
  | float x => .ok x
  | text s =>
    match Decimal.readFloat? s.lossy with
    | some x => .ok x
    | none => .error ⟨"ValueError", "could not convert string to float: " ++ Quoted.render s⟩
  | _ => .error ⟨"TypeError",
      "float() argument must be a string or a real number, not " ++ quote v.typeName⟩

/-- The most characters of a text that are shown when it is no whole number. -/
def shownLimit : Nat := 200

/-- The whole number that a value is or writes. Doubles lose their fraction. -/
def toWhole (v : Json) : Except Fault Int :=
  match v with
  | bool b => .ok (if b then 1 else 0)
  | int n => .ok n
  | float x =>
    match Decimal.truncate? x with
    | some n => .ok n
    | none =>
      if x.isNaN then .error ⟨"ValueError", "cannot convert float NaN to integer"⟩
      else .error ⟨"OverflowError", "cannot convert float infinity to integer"⟩
  | text s =>
    match Decimal.readInt s.lossy with
    | .ok n => .ok n
    | .error (some count) => .error ⟨"ValueError", Decimal.tooManyDigits count⟩
    | .error none => .error ⟨"ValueError", "invalid literal for int() with base 10: " ++
        String.ofList ((Quoted.render s).toList.take shownLimit)⟩
  | _ => .error ⟨"TypeError",
      "int() argument must be a string, a bytes-like object or a real number, not " ++
        quote v.typeName⟩

end Json

namespace Settings

structure Draft where
  debounce : Json
  minLength : Json
  timeout : Json
  sectionName : Json

def toDraft (s : Settings) : Draft :=
  ⟨.float s.debounce, .int s.minLength, .float s.timeout, .text s.sectionText⟩

/-- The double `x`, or zero if `x` is less. -/
def atLeastZero (x : Float) : Float := if 0 < x then x else 0

/-- The fields with those of the settings set. The others stay. -/
def Draft.merge (d : Draft) (fields : Json.Fields) : Except Fault Json.Fields := do
  let debounce ← d.debounce.toSeconds
  let minLength ← d.minLength.toWhole
  let timeout ← d.timeout.toSeconds
  return (((fields.set debounceField (.float (atLeastZero debounce))).set
    minLengthField (.int (max 1 minLength))).set
    timeoutField (.float timeout)).set
    sectionField (.text (readSection (some d.sectionName)))

end Settings

end DocIndex
