import DocIndex.Expression.Token

/-! # Nested lists of texts

The array of a partition file is made of texts and of lists within lists. Such a value is a
`Nested`.
-/

namespace DocIndex

open Expression

/-- A text, or a list of such values. -/
inductive Nested where
  | text (s : Text.CodePoints)
  | list (items : List Nested)

namespace Nested

mutual

def tokens : Nested → List Token
  | text s => [.text s]
  | list items => .opening .square :: tokensWithin items

/-- Items and the bracket that closes their list. -/
def tokensWithin : List Nested → List Token
  | [] => [.closing .square]
  | x :: rest => tokens x ++ tokensAfter rest

/-- Further items, each after a comma, and the closing bracket. -/
def tokensAfter : List Nested → List Token
  | [] => [.closing .square]
  | x :: rest => .symbol .comma :: (tokens x ++ tokensAfter rest)

end

mutual

/-- How many lists stand within one another. -/
def depth : Nested → Nat
  | text _ => 0
  | list items => depthWithin items + 1

def depthWithin : List Nested → Nat
  | [] => 0
  | x :: rest => max (depth x) (depthWithin rest)

end

end Nested

end DocIndex
