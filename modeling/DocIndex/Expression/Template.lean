import DocIndex.Expression.Quotation
import DocIndex.Text.Digit

/-! # Templates

A template is a text with fields between curly brackets. A field is an expression, perhaps with a
conversion, and with a format that may hold fields of its own. Doubled brackets outside fields
stand for single ones.
-/

namespace DocIndex.Expression.Template

open Text

/-- Where in a quotation inside a field the reading is. -/
inductive Quotation where
  | outside
  /-- After an opening quotation mark. -/
  | opened (quote : Char)
  /-- After two quotation marks: nothing is quoted, or a third mark opens a long quotation. -/
  | openedTwice (quote : Char)
  | short (quote : Char)
  /-- In a long quotation, of whose quotation marks `marks` in a row have just been read. -/
  | long (quote : Char) (marks : Nat)
  deriving DecidableEq

/-- How far a template has been read. `level` counts the fields that the place is inside of, each
in the format of the one before. Runs of characters hold the last one first. -/
inductive Progress where
  /-- Outside the expressions of fields, where an escape may have begun. -/
  | literal (level : Nat) (escape : Escape)
  /-- After an opening bracket outside fields. -/
  | opened
  /-- After a closing bracket outside fields. -/
  | closed
  /-- In the expression of a field, with the brackets that are open in it, the innermost first. -/
  | field (level : Nat) (run : List Char) (quotation : Quotation) (brackets : List Char)
  /-- In the expression of a field, after a character that may end it. -/
  | half (level : Nat) (run : List Char) (c : Char)
  /-- After the equals sign that ends the expression of a field. -/
  | shown (level : Nat)
  /-- After the exclamation mark before a conversion. -/
  | conversion (level : Nat)
  /-- Before the format or the end of a field. -/
  | ending (level : Nat)

/-- A step: the expression of a field that it completes, and the progress after it. -/
abbrev Step := Option (Option (List Char) × Progress)

/-- The expression of a field, which is not blank. -/
def fieldText? (run : List Char) : Option (List Char) :=
  if run.all fun c => c == ' ' || c == '\t' || c == '\n' || c == '\x0c' then none
  else some run.reverse

/-- After a field, or after its expression if nothing but the format may follow. -/
def Progress.endField (level : Nat) (c : Char) : Option Progress :=
  if c = ':' then some (.literal (level + 1) .outside)
  else if c = '\x7d' then some (.literal level .outside)
  else none

def opener? (c : Char) : Option Char :=
  if c = ')' then some '('
  else if c = ']' then some '['
  else if c = '\x7d' then some '\x7b'
  else none

/-- One character of the expression of a field, outside quotations. -/
def expressionStep (level : Nat) (run : List Char) (brackets : List Char) (c : Char) : Step :=
  if c = '\\' ∨ c = '#' then none
  else if c = '\'' ∨ c = '"' then some (none, .field level (c :: run) (.opened c) brackets)
  else if c = '(' ∨ c = '[' ∨ c = '\x7b' then
    some (none, .field level (c :: run) .outside (c :: brackets))
  else if brackets.isEmpty ∧ (c = '!' ∨ c = '=' ∨ c = '<' ∨ c = '>') then
    some (none, .half level run c)
  else if brackets.isEmpty ∧ (c = ':' ∨ c = '\x7d') then do
    let text ← fieldText? run
    let next ← Progress.endField level c
    return (some text, next)
  else match opener? c with
    | none => some (none, .field level (c :: run) .outside brackets)
    | some opener =>
      if brackets.head? = some opener then
        some (none, .field level (c :: run) .outside brackets.tail)
      else none

/-- One character of a short quotation in a field. -/
def shortStep (level : Nat) (run : List Char) (brackets : List Char) (quote c : Char) : Step :=
  some (none, .field level (c :: run) (if c = quote then .outside else .short quote) brackets)

/-- One character of the expression of a field. -/
def fieldStep (level : Nat) (run : List Char) (brackets : List Char) (q : Quotation) (c : Char) :
    Step :=
  if c = '\\' then none
  else match q with
    | .outside => expressionStep level run brackets c
    | .opened quote =>
      if c = quote then some (none, .field level (c :: run) (.openedTwice quote) brackets)
      else shortStep level run brackets quote c
    | .openedTwice quote =>
      if c = quote then some (none, .field level (c :: run) (.long quote 0) brackets)
      else expressionStep level run brackets c
    | .short quote => shortStep level run brackets quote c
    | .long quote marks =>
      let next := if c ≠ quote then .long quote 0
        else if marks < 2 then .long quote (marks + 1) else .outside
      some (none, .field level (c :: run) next brackets)

/-- Whether the next character is part of the name of a character or begins one. -/
def isNaming : Escape → Bool
  | .announced => true
  | .name _ => true
  | _ => false

variable [CharacterNames]

/-- The progress of an escape in a stretch between fields. -/
def escapeStep (raw : Bool) (e : Escape) (c : Char) : Option Escape :=
  if raw then some .outside else (e.step plainText c).map (·.2)

/-- One character outside the expressions of fields. Brackets around the name of a character belong
to its escape. Others are doubled only outside fields, and a format holds fields only if it is not
in the format of another. -/
def literalStep (raw : Bool) (level : Nat) (e : Escape) (c : Char) : Step := do
  let next ← escapeStep raw e c
  if isNaming e ∨ c ≠ '\x7b' ∧ c ≠ '\x7d' then some (none, .literal level next)
  else if c = '\x7b' then
    match level with
    | 0 => some (none, .opened)
    | 1 => some (none, .field 1 [] .outside [])
    | _ => none
  else
    match level with
    | 0 => some (none, .closed)
    | level + 1 => some (none, .literal level .outside)

/-- White space after the equals sign of a field. -/
def isSpacing (c : Char) : Bool := c == ' ' || (decide ('\t' ≤ c) && decide (c ≤ '\r'))

def Progress.step (raw : Bool) : Progress → Char → Step
  | literal level e, c => literalStep raw level e c
  | opened, c =>
    if c = '\x7b' then some (none, literal 0 .outside) else fieldStep 0 [] [] .outside c
  | closed, c => if c = '\x7d' then some (none, literal 0 .outside) else none
  | field level run quotation brackets, c => fieldStep level run brackets quotation c
  | half level run first, c =>
    if c = '=' then some (none, field level (c :: first :: run) .outside [])
    else if first = '<' ∨ first = '>' then fieldStep level (first :: run) [] .outside c
    else do
      let text ← fieldText? run
      if first = '!' then
        if c = 's' ∨ c = 'r' ∨ c = 'a' then some (some text, ending level) else none
      else if isSpacing c then some (some text, shown level)
      else if c = '!' then some (some text, conversion level)
      else (endField level c).map fun next => (some text, next)
  | shown level, c =>
    if isSpacing c then some (none, shown level)
    else if c = '!' then some (none, conversion level)
    else (endField level c).map fun next => (none, next)
  | conversion level, c =>
    if c = 's' ∨ c = 'r' ∨ c = 'a' then some (none, ending level) else none
  | ending level, c => (endField level c).map fun next => (none, next)

/-- The expressions of the fields of a template, read from progress `p` on. -/
def fieldsFrom (raw : Bool) (p : Progress) : List Char → Option (List (List Char))
  | [] => match p with
    | .literal 0 e => (unescapeFrom plainText e []).map fun _ => []
    | _ => none
  | c :: rest =>
    match p.step raw c with
    | none => none
    | some (field?, next) => (fieldsFrom raw next rest).map (field?.toList ++ ·)

/-- The expressions of the fields of the template `body`, in the order in which they end, if it is
well-formed but for them. -/
def fields? (raw : Bool) (body : List Char) : Option (List (List Char)) :=
  fieldsFrom raw (.literal 0 .outside) body

end DocIndex.Expression.Template
