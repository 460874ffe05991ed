import DocIndex.Decimal.Reading
import DocIndex.Fault
import DocIndex.Json.Basic
import DocIndex.Partition
import DocIndex.Query
import DocIndex.Source.Web

/-! # Settings

How long a query must stand, how long it must be, how long a server is waited for, and which
section of the index is searched. Each setting is taken from a field of its own, and is its
default where the field is missing or not valid.
-/

namespace DocIndex

open Text

structure Settings where
  debounce : Float
  minLength : Int
  timeout : Float
  sectionText : CodePoints

namespace Settings

/-- The name of the section as it is shown, lone surrogates in it being replaced. -/
def sectionName (s : Settings) : String := String.ofList s.sectionText.lossy

/-- The seconds that a query must stand unless others are chosen. -/
def defaultDebounce : Float := 0.5

/-- The section that is searched unless another is chosen. -/
def defaultSection : CodePoints := .ofString Partition.defaultSection

/-- The settings when nothing has been chosen. -/
def default : Settings :=
  ⟨defaultDebounce, Query.defaultLength, WebSource.defaultTimeout, defaultSection⟩

/-! ## Fields -/

def debounceField : CodePoints := .ofString "debounce_seconds"

def minLengthField : CodePoints := .ofString "min_query_length"

def timeoutField : CodePoints := .ofString "fetch_timeout_seconds"

def sectionField : CodePoints := .ofString "index_section"

/-- What is told of a whole number beyond all doubles. -/
def tooLarge : Fault := ⟨"OverflowError", "int too large to convert to float"⟩

/-- A whole number as a double. -/
def secondsOfInt (n : Int) : Except Fault Float :=
  match Decimal.intToFloat? n with
  | some x => .ok x
  | none => .error tooLarge

/-- Seconds, which are not negative, and zero only if `allowZero`. -/
def readSeconds (default : Float) (allowZero : Bool) (v? : Option Json) : Except Fault Float :=
  match v? with
  | some (.int n) => if n < 0 ∨ (n = 0 ∧ !allowZero) then .ok default else secondsOfInt n
  | some (.float x) => .ok (if x < 0 || (x == 0 && !allowZero) then default else x)
  | _ => .ok default

/-- The fewest characters of a query, at least one. -/
def readMinLength (v? : Option Json) : Int :=
  match v? with
  | some (.int n) => if n < 1 then Query.defaultLength else n
  | _ => Query.defaultLength

/-- The name of a section, without white space around it and not empty. -/
def readSection (v? : Option Json) : CodePoints :=
  match v? with
  | some (.text s) => if s.strip.points.isEmpty then defaultSection else s.strip
  | _ => defaultSection

/-- The settings that the fields of an object choose. -/
def ofFields (fields : Json.Fields) : Except Fault Settings := do
  let debounce ← readSeconds defaultDebounce true (fields.get? debounceField)
  let timeout ← readSeconds WebSource.defaultTimeout false (fields.get? timeoutField)
  return ⟨debounce, readMinLength (fields.get? minLengthField), timeout,
    readSection (fields.get? sectionField)⟩

end Settings

end DocIndex
