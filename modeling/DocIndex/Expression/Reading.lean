import DocIndex.Expression.Grammar
import DocIndex.Expression.Template

/-! # Expressions from text -/

namespace DocIndex.Expression

variable [CharacterNames]

/-- The most brackets that may be open at once. A reader may break down before it comes to as
many, since other forms nest too: see `Literal.Reader`. -/
def depthLimit : Nat := 200

/-- The tokens without line ends. Within `depth` brackets these separate tokens; outside they end
the expression, and only others follow. -/
def joinLines : Nat → List Token → Option (List Token)
  | _, [] => some []
  | depth, .opening b :: rest =>
    if depth < depthLimit then (joinLines (depth + 1) rest).map (.opening b :: ·) else none
  | 0, .closing _ :: _ => none
  | depth + 1, .closing b :: rest => (joinLines depth rest).map (.closing b :: ·)
  | 0, .lineEnd :: rest =>
    if rest.all fun t => t matches .lineEnd then some [] else none
  | depth + 1, .lineEnd :: rest => joinLines (depth + 1) rest
  | depth, t :: rest => (joinLines depth rest).map (t :: ·)

/-- Whether the fields of a template are expressions, each read as if in round brackets. -/
def isWellFormed (isExpression : List Char → Bool) : Token → Bool
  | .template raw body =>
    match Template.fields? raw body with
    | some fields => fields.all fun field => isExpression ('(' :: field ++ [')'])
    | none => false
  | _ => true

/-- The expression that `s` writes. Templates are nested at most `fuel` deep in it. -/
def readNested? : Nat → List Char → Option Expression
  | 0, _ => none
  | fuel + 1, s => do
    let tokens ← tokens? s
    let tokens ← joinLines 0 tokens
    let e ← Grammar.read? tokens
    if tokens.all (isWellFormed fun s => (readNested? fuel s).isSome) then some e else none

/-- The expression that `s` writes. A template is shorter than what it stands in. -/
def read? (s : List Char) : Option Expression := readNested? (s.length + 1) s

end DocIndex.Expression
