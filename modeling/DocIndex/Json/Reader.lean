import DocIndex.Json.Token

/-! # Reading JSON

Tokens are read with a stack of frames, one for each open bracket. A text is read as a whole or
not at all; why it is malformed does not matter.
-/

namespace DocIndex.Json

open Text

/-- What has been read between open brackets. An array holds its items last first; an object
holds its fields and the name of the field whose value is being read. -/
inductive Frame where
  | array (before : List Json)
  | object (before : Fields) (name : CodePoints)

/-- What must come next within the open brackets. -/
inductive Reader where
  /-- A value, or the end of an array that is still empty. -/
  | value (canClose : Bool) (outer : List Frame)
  /-- The name of a field, or the end of an object that is still empty. -/
  | name (canClose : Bool) (before : Fields) (outer : List Frame)
  | colon (before : Fields) (name : CodePoints) (outer : List Frame)
  /-- A comma or a closing bracket after a value, or nothing. -/
  | after (outer : List Frame) (v : Json)

namespace Reader

/-- The most brackets that may be open at once. A reader has room for a thousand nested calls, of
which ten are left to its callers. -/
def depthLimit : Nat := 990

/-- The start of a value. -/
def begin (canClose : Bool) (outer : List Frame) : Token → Option Reader
  | .scalar v => some (after outer v)
  | .text s => some (after outer (.text s))
  | .openArray =>
    if outer.length < depthLimit then some (value true (.array [] :: outer)) else none
  | .openObject => if outer.length < depthLimit then some (name true [] outer) else none
  | .closeArray =>
    match canClose, outer with
    | true, .array _ :: outer => some (after outer (.array []))
    | _, _ => none
  | _ => none

/-- A comma or a closing bracket after the value `v`. -/
def continue? (outer : List Frame) (v : Json) (t : Token) : Option Reader :=
  match outer, t with
  | .array before :: outer, .comma => some (value false (.array (v :: before) :: outer))
  | .array before :: outer, .closeArray => some (after outer (.array (v :: before).reverse))
  | .object before field :: outer, .comma => some (name false (before.set field v) outer)
  | .object before field :: outer, .closeObject =>
    some (after outer (.object (before.set field v)))
  | _, _ => none

def step (r : Reader) (t : Token) : Option Reader :=
  match r with
  | value canClose outer => begin canClose outer t
  | name canClose before outer =>
    match t with
    | .text s => some (colon before s outer)
    | .closeObject => if canClose then some (after outer (.object [])) else none
    | _ => none
  | colon before field outer =>
    match t with
    | .colon => some (value false (.object before field :: outer))
    | _ => none
  | after outer v => continue? outer v t

def run (r : Reader) : List Token → Option Reader
  | [] => some r
  | t :: rest => (r.step t).bind fun r => r.run rest

/-- The value that has been read, if no bracket is open. -/
def result? : Reader → Option Json
  | after [] v => some v
  | _ => none

end Reader

def read? (s : List Char) : Option Json :=
  (tokens? s).bind fun tokens => ((Reader.value false []).run tokens).bind Reader.result?

end DocIndex.Json
