import DocIndex.Expression.Nested
import DocIndex.Expression.Reading

/-! # Reading literals

A literal is an expression that says its value: nothing in it has to be looked up or computed,
signs and complex numbers apart. The whole text must be an expression before any part of it is
valued. Which texts are too much for a reader hangs on the reader, and so does what it knows of
the names of characters.
-/

namespace DocIndex.Literal

open Expression

/-! ## Readers -/

/-- Why a reader stops before it has read a text. -/
inductive Breakdown where
  /-- What is nested in the text needs more room than the reader has. -/
  | exhausted
  /-- The reader itself fails. -/
  | internal (message : String)

/-- What is left open about those who read literals. -/
class Reader extends CharacterNames where
  /-- Whether the reader breaks down over a text. How deep operators, calls, brackets and other
  forms may be nested depends on the room that it has, and so on who calls it. -/
  breakdown? : List Char → Option Breakdown
  /-- There is room for texts in lists, nested as they are in partition files. -/
  sustained : ∀ (s : List Char) (x : Nested), (tokens? s).bind (joinLines 0) = some x.tokens →
    x.depth ≤ 4 → breakdown? s = Option.none
  /-- What the reader says of a text that it cannot read. -/
  complaint : List Char → String

/-- The reader that knows these names, never breaks down and gives no reasons. -/
@[reducible] def Reader.tireless (named? : List Char → Option Char) : Reader where
  named? := named?
  breakdown? _ := Option.none
  sustained _ _ _ _ := rfl
  complaint _ := ""

/-- The reader of texts without names in them. -/
@[reducible] def Reader.plain : Reader := .tireless fun _ => Option.none

variable [Reader]

/-! ## Reading -/

/-- The input from its first token on. Before it only blank lines and comments may stand, and it
must begin its line: `column` is its column so far, `kept` the first column not zero at which a
backslash joined the line, `remark` says whether a comment is being passed over. -/
def fromFirstToken (column kept : Nat) (remark : Bool) : List Char → Option (List Char)
  | [] => Option.none
  | '\\' :: '\n' :: rest =>
    if remark then fromFirstToken 0 0 false rest
    else if rest.isEmpty then Option.none
    else fromFirstToken column (if kept = 0 then column else kept) false rest
  | c :: rest =>
    if c = '\n' then fromFirstToken 0 0 false rest
    else if remark then fromFirstToken column kept true rest
    else if c = ' ' then fromFirstToken (column + 1) kept false rest
    else if c = '\t' then fromFirstToken ((column / 8 + 1) * 8) kept false rest
    else if c = '\x0c' then fromFirstToken 0 kept false rest
    else if c = '#' then fromFirstToken column kept true rest
    else if (if kept = 0 then column else kept) = 0 then some (c :: rest)
    else Option.none

/-- The expression that the whole text is. -/
def expression? (s : List Char) : Option Expression :=
  if s.contains '\x00' then Option.none else (fromFirstToken 0 0 false s).bind Expression.read?

def read (s : List Char) : Except Fault Literal :=
  match Reader.breakdown? s with
  | some .exhausted => .error .unreadable
  | some (.internal message) => .error (.internal message)
  | Option.none =>
    match expression? s with
    | some e => e.value
    | Option.none => .error .unreadable

end DocIndex.Literal
