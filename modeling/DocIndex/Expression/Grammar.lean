import DocIndex.Expression.Basic
import DocIndex.Expression.Token

/-! # The grammar of expressions

A rule reads an expression, or a part of one, at the start of a list of tokens. The next token or
two decide how each rule goes on, so no token is read twice. What stands inside an expression
follows a token of it and is read with rules of its own, `inner`. `fuel` bounds the tokens still
to be read.
-/

namespace DocIndex.Expression.Grammar

open Text

/-- What is read at the start of the tokens, and the tokens after it. -/
abbrev Rule (α : Type) := List Token → Option (α × List Token)

/-- The words that are no names. -/
def reservedWords : List String :=
  ["False", "None", "True", "and", "as", "assert", "async", "await", "break", "class",
   "continue", "def", "del", "elif", "else", "except", "finally", "for", "from", "global", "if",
   "import", "in", "is", "lambda", "nonlocal", "not", "or", "pass", "raise", "return", "try",
   "while", "with", "yield"]

def isName (letters : String) : Bool := !reservedWords.contains letters

def close? (b : Bracket) : List Token → Option (List Token)
  | .closing b' :: rest => if b' = b then some rest else none
  | _ => none

def end? : List Token → Option (List Token)
  | [] => some []
  | _ => none

/-- Items with commas between them, perhaps with one at the end, up to what `stop?` accepts. Those
read `before` come latest first. -/
def series {α : Type} (item : Rule α) (stop? : List Token → Option (List Token)) :
    Nat → List α → Rule (List α)
  | 0, _, _ => none
  | fuel + 1, before, ts =>
    match stop? ts with
    | some rest => some (before.reverse, rest)
    | none => do
      let (a, rest) ← item ts
      match rest with
      | .symbol .comma :: rest => series item stop? fuel (a :: before) rest
      | _ => (stop? rest).map fun rest => ((a :: before).reverse, rest)

/-! ## Operators -/

inductive Join where
  | sum (negative : Bool)
  | other

def Join.apply (left : Expression) : Join → Expression → Expression
  | sum negative, right => .sum left negative right
  | other, _ => .other

/-- An operator between numbers or sets. -/
def arithmeticJoin? : List Token → Option (Join × List Token)
  | .symbol .plus :: rest => some (.sum false, rest)
  | .symbol .minus :: rest => some (.sum true, rest)
  | .symbol .star :: rest => some (.other, rest)
  | .symbol .doubleStar :: rest => some (.other, rest)
  | .symbol .slash :: rest => some (.other, rest)
  | .symbol .operator :: rest => some (.other, rest)
  | _ => none

def comparisonJoin? : List Token → Option (Join × List Token)
  | .symbol .comparison :: rest => some (.other, rest)
  | .word "in" :: rest => some (.other, rest)
  | .word "not" :: .word "in" :: rest => some (.other, rest)
  | .word "is" :: .word "not" :: rest => some (.other, rest)
  | .word "is" :: rest => some (.other, rest)
  | _ => none

def logicalJoin? : List Token → Option (Join × List Token)
  | .word "and" :: rest => some (.other, rest)
  | .word "or" :: rest => some (.other, rest)
  | _ => none

/-- What stands before, joined with the operands that follow, each after an operator. Only sums
can be literals, and only those of two operands, so the order of the operations is immaterial. -/
def joined (join? : List Token → Option (Join × List Token)) (operand : Rule Expression) :
    Nat → Expression → Rule Expression
  | 0, _, _ => none
  | fuel + 1, left, ts =>
    match join? ts with
    | none => some (left, ts)
    | some (join, rest) => do
      let (right, rest) ← operand rest
      joined join? operand fuel (join.apply left right) rest

/-- Operands with operators between them. -/
def chain (join? : List Token → Option (Join × List Token)) (operand : Rule Expression)
    (fuel : Nat) : Rule Expression := fun ts => do
  let (left, rest) ← operand ts
  joined join? operand fuel left rest

/-- An operand of arithmetic, after signs or inversions or after waiting for it. -/
def factor (primary : Rule Expression) : Rule Expression
  | .symbol .plus :: rest => (factor primary rest).map fun (e, rest) => (.signed false e, rest)
  | .symbol .minus :: rest => (factor primary rest).map fun (e, rest) => (.signed true e, rest)
  | .symbol .tilde :: rest => (factor primary rest).map fun (_, rest) => (.other, rest)
  | .word "await" :: rest => (primary rest).map fun (_, rest) => (.other, rest)
  | ts => primary ts

/-- An operand of logic, after negations. -/
def inversion (comparison : Rule Expression) : Rule Expression
  | .word "not" :: rest => (inversion comparison rest).map fun (_, rest) => (.other, rest)
  | ts => comparison ts

/-- Texts joined with the text `s` before them. A text with fields makes them all one. -/
def texts (fields : Bool) (s : CodePoints) : Rule Expression
  | .text t :: rest => texts fields (s.append t) rest
  | .template _ _ :: rest => texts true s rest
  | .bytes _ :: _ => none
  | ts => some (if fields then .other else .constant (.text s), ts)

/-- Bytes joined with the bytes `b` before them. -/
def byteTexts (b : List Nat) : Rule Expression
  | .bytes c :: rest => byteTexts (b ++ c) rest
  | .text _ :: _ => none
  | .template _ _ :: _ => none
  | ts => some (.constant (.bytes b), ts)

/-- A word: a constant or a name. -/
def word? (letters : String) : Option Expression :=
  if letters = "None" then some (.constant .none)
  else if letters = "True" then some (.constant (.bool true))
  else if letters = "False" then some (.constant (.bool false))
  else if isName letters then some (.name letters)
  else none

/-- The rules that read parts of expressions by name. -/
structure Rules where
  expression : Rule Expression
  /-- An expression without conditions, logic and comparisons. -/
  arithmetic : Rule Expression
  /-- An expression without conditions. -/
  disjunction : Rule Expression

section

variable (inner : Rules)

/-- An expression, to which a name may be bound. -/
def named : Rule Expression
  | .word letters :: .symbol .define :: rest =>
    if isName letters then (inner.expression rest).map fun (_, rest) => (.other, rest) else none
  | ts => inner.expression ts

/-- Whether what begins here may be followed by a colon: it is neither the items of a value nor
bound to a name. -/
def admitsColon : List Token → Bool
  | .symbol .star :: _ => false
  | .word _ :: .symbol .define :: _ => false
  | _ => true

/-! ## Loops within brackets -/

def loop? : List Token → Option (List Token)
  | .word "for" :: rest => some rest
  | .word "async" :: .word "for" :: rest => some rest
  | _ => none

def target : Rule Expression
  | .symbol .star :: rest => inner.arithmetic rest
  | ts => inner.arithmetic ts

/-- The targets of a loop and the word after them. -/
def targets : Nat → List Token → Option (List Token)
  | 0, _ => none
  | fuel + 1, ts => do
    let (e, rest) ← target inner ts
    if e.isTarget then
      match rest with
      | .word "in" :: rest => some rest
      | .symbol .comma :: .word "in" :: rest => some rest
      | .symbol .comma :: rest => targets fuel rest
      | _ => none
    else none

def loops : Nat → List Token → Option (List Token)
  | 0, _ => none
  | fuel + 1, ts =>
    match loop? ts with
    | some rest => do
      let rest ← targets inner fuel rest
      let (_, rest) ← inner.disjunction rest
      loops fuel rest
    | none =>
      match ts with
      | .word "if" :: rest => do
        let (_, rest) ← inner.disjunction rest
        loops fuel rest
      | _ => some ts

/-- Loops and the closing bracket after them, which make many items of the one before. -/
def comprehension (fuel : Nat) (b : Bracket) (ts : List Token) :
    Option (Expression × List Token) := do
  let _ ← loop? ts
  let rest ← loops inner fuel ts
  let rest ← close? b rest
  return (.other, rest)

/-! ## Brackets that hold values -/

/-- An item of a display: an expression, or the items of a value. -/
def item : Rule Expression
  | .symbol .star :: rest => (inner.arithmetic rest).map fun (e, rest) => (.starred e, rest)
  | ts => named inner ts

/-- What follows the `first` item within brackets `b`: others, which make it one of `several`,
the closing bracket, which leaves it `alone`, or loops. -/
def display (fuel : Nat) (b : Bracket) (several : List Expression → Expression)
    (alone : Expression → Option Expression) (first : Expression) : Rule Expression
  | .symbol .comma :: rest =>
    (series (item inner) (close? b) fuel [first] rest).map fun (items, rest) =>
      (several items, rest)
  | ts =>
    match close? b ts with
    | some rest => (alone first).map fun e => (e, rest)
    | none => if first.isStarred then none else comprehension inner fuel b ts

/-- An expression in the place of a value that a caller sends, within round brackets. -/
def received (fuel : Nat) : Rule Expression
  | .word "from" :: rest => do
    let (_, rest) ← inner.expression rest
    let rest ← close? .round rest
    return (.other, rest)
  | ts =>
    let item : Rule Expression
      | .symbol .star :: rest => inner.arithmetic rest
      | ts => inner.expression ts
    (series item (close? .round) fuel [] ts).map fun (_, rest) => (.other, rest)

/-- What follows an opening round bracket that begins an operand. -/
def round (fuel : Nat) : Rule Expression
  | .closing .round :: rest => some (.tuple [], rest)
  | .word "yield" :: rest => received inner fuel rest
  | ts => do
    let (first, rest) ← item inner ts
    display inner fuel .round .tuple (fun e => if e.isStarred then none else some e) first rest

/-- What follows an opening square bracket that begins an operand. -/
def square (fuel : Nat) : Rule Expression
  | .closing .square :: rest => some (.list [], rest)
  | ts => do
    let (first, rest) ← item inner ts
    display inner fuel .square .list (fun e => some (.list [e])) first rest

/-- The entries of a value among those of a display, after the double star. -/
def unpacked : Rule (Expression × Expression) := fun ts =>
  (inner.arithmetic ts).map fun (_, rest) => ((.other, .other), rest)

/-- A key with its value, or the entries of a value. -/
def entry : Rule (Expression × Expression)
  | .symbol .doubleStar :: rest => unpacked inner rest
  | ts => do
    let (k, rest) ← inner.expression ts
    match rest with
    | .symbol .colon :: rest => (inner.expression rest).map fun (v, rest) => ((k, v), rest)
    | _ => none

/-- What follows the `first` entry of a display. -/
def entriesAfter (fuel : Nat) (first : Expression × Expression) : Rule Expression
  | .symbol .comma :: rest =>
    (series (entry inner) (close? .curly) fuel [first] rest).map fun (pairs, rest) =>
      (.dict pairs, rest)
  | ts => (close? .curly ts).map fun rest => (.dict [first], rest)

def curly (fuel : Nat) : Rule Expression
  | .closing .curly :: rest => some (.dict [], rest)
  | .symbol .doubleStar :: rest => do
    let (first, rest) ← unpacked inner rest
    entriesAfter inner fuel first rest
  | ts => do
    let (first, rest) ← item inner ts
    match rest with
    | .symbol .colon :: rest =>
      if admitsColon ts then do
        let (v, rest) ← inner.expression rest
        match loop? rest with
        | some _ => comprehension inner fuel .curly rest
        | none => entriesAfter inner fuel (first, v) rest
      else none
    | _ => display inner fuel .curly .set (fun e => some (.set [e])) first rest

/-! ## Subscripts -/

/-- A bound of a slice, which may be left out. -/
def bound : List Token → Option (List Token)
  | .symbol .colon :: rest => some (.symbol .colon :: rest)
  | .symbol .comma :: rest => some (.symbol .comma :: rest)
  | .closing b :: rest => some (.closing b :: rest)
  | ts => (inner.expression ts).map (·.2)

/-- A slice after its first colon. -/
def bounds (ts : List Token) : Option (List Token) := do
  let rest ← bound inner ts
  match rest with
  | .symbol .colon :: rest => bound inner rest
  | _ => some rest

def index : Rule Unit
  | .symbol .star :: rest => (inner.expression rest).map fun (_, rest) => ((), rest)
  | .symbol .colon :: rest => (bounds inner rest).map fun rest => ((), rest)
  | ts => do
    let (_, rest) ← named inner ts
    match rest with
    | .symbol .colon :: rest =>
      if admitsColon ts then (bounds inner rest).map fun rest => ((), rest) else none
    | _ => some ((), rest)

/-- What follows the bracket that opens a subscript. -/
def subscript (fuel : Nat) (ts : List Token) : Option (List Token) :=
  match close? .square ts with
  | some _ => none
  | none => (series (index inner) (close? .square) fuel [] ts).map (·.2)

/-! ## Arguments -/

/-- Which arguments may follow those that have been read. -/
inductive Arguments where
  | start
  | positional
  | keywords
  /-- After the entries of a value: only named arguments follow. -/
  | mappings
  /-- After an argument with loops, which stands alone. -/
  | complete
  deriving DecidableEq

def Arguments.addName : Arguments → Option Arguments
  | start | positional | keywords => some keywords
  | mappings => some mappings
  | complete => none

def Arguments.addItems : Arguments → Option Arguments
  | start | positional => some positional
  | keywords => some keywords
  | mappings | complete => none

def argument (fuel : Nat) (a : Arguments) : Rule Arguments
  | .symbol .star :: rest => do
    let a ← a.addItems
    let (_, rest) ← inner.expression rest
    return (a, rest)
  | .symbol .doubleStar :: rest =>
    if a = .complete then none
    else (inner.expression rest).map fun (_, rest) => (.mappings, rest)
  | .word letters :: .symbol .equals :: rest => do
    let a ← a.addName
    let (_, rest) ← inner.expression rest
    if isName letters then some (a, rest) else none
  | ts =>
    if a = .start ∨ a = .positional then do
      let (_, rest) ← named inner ts
      match loop? rest with
      | none => some (.positional, rest)
      | some _ =>
        if a = .start then (loops inner fuel rest).map fun rest => (.complete, rest) else none
    else none

/-- Arguments and the closing bracket after them. -/
def arguments : Nat → Arguments → List Token → Option (List Token)
  | 0, _, _ => none
  | fuel + 1, a, ts =>
    match close? .round ts with
    | some rest => some rest
    | none => do
      let (a, rest) ← argument inner fuel a ts
      match rest with
      | .symbol .comma :: rest => if a = .complete then none else arguments fuel a rest
      | _ => close? .round rest

/-! ## Parameters -/

/-- Which parameters may follow those that have been read. `split` says that a slash has stood
among them. -/
inductive Parameters where
  | start
  | plain (split : Bool)
  /-- After a parameter with a default: the next must have one too. -/
  | defaulted (split : Bool)
  /-- After a lone star, which a name must follow. -/
  | lone
  | keywords
  | complete
  deriving DecidableEq

def Parameters.addName : Parameters → Option Parameters
  | start => some (plain false)
  | plain split => some (plain split)
  | lone | keywords => some keywords
  | defaulted _ | complete => none

def Parameters.addDefault : Parameters → Option Parameters
  | start => some (defaulted false)
  | plain split | defaulted split => some (defaulted split)
  | lone | keywords => some keywords
  | complete => none

def Parameters.addSlash : Parameters → Option Parameters
  | plain false => some (plain true)
  | defaulted false => some (defaulted true)
  | _ => none

/-- After a star, with a name behind it or alone. -/
def Parameters.addStar (p next : Parameters) : Option Parameters :=
  match p with
  | start | plain _ | defaulted _ => some next
  | _ => none

/-- After a double star and a name. -/
def Parameters.addMapping : Parameters → Option Parameters
  | lone | complete => none
  | _ => some complete

def parameter (p : Parameters) : Rule Parameters
  | .symbol .slash :: rest => p.addSlash.map fun p => (p, rest)
  | .symbol .star :: .word letters :: rest =>
    if isName letters then (p.addStar .keywords).map fun p => (p, rest) else none
  | .symbol .star :: rest => (p.addStar .lone).map fun p => (p, rest)
  | .symbol .doubleStar :: .word letters :: rest =>
    if isName letters then p.addMapping.map fun p => (p, rest) else none
  | .word letters :: .symbol .equals :: rest => do
    let p ← p.addDefault
    let (_, rest) ← inner.expression rest
    if isName letters then some (p, rest) else none
  | .word letters :: rest => if isName letters then p.addName.map fun p => (p, rest) else none
  | _ => none

def endParameters (p : Parameters) : List Token → Option (List Token)
  | .symbol .colon :: rest => if p = .lone then none else some rest
  | _ => none

def parameters : Nat → Parameters → List Token → Option (List Token)
  | 0, _, _ => none
  | fuel + 1, p, ts =>
    match endParameters p ts with
    | some rest => some rest
    | none => do
      let (p, rest) ← parameter inner p ts
      match rest with
      | .symbol .comma :: rest => parameters fuel p rest
      | _ => endParameters p rest

/-! ## Expressions -/

/-- What a single token or a pair of brackets stands for. -/
def atom (fuel : Nat) : Rule Expression
  | .number v :: rest => some (.constant v, rest)
  | .text s :: rest => texts false s rest
  | .template _ _ :: rest => texts true ⟨[]⟩ rest
  | .bytes b :: rest => byteTexts b rest
  | .symbol .ellipsis :: rest => some (.constant .ellipsis, rest)
  | .word letters :: rest => (word? letters).map fun e => (e, rest)
  | .opening .round :: rest => round inner fuel rest
  | .opening .square :: rest => square inner fuel rest
  | .opening .curly :: rest => curly inner fuel rest
  | _ => none

/-- An expression with the attributes, calls and subscripts that follow it. -/
def trailers : Nat → Expression → Rule Expression
  | 0, _, _ => none
  | fuel + 1, e, ts =>
    match ts with
    | .symbol .dot :: .word letters :: rest =>
      if isName letters then trailers fuel .member rest else none
    | .opening .round :: .closing .round :: rest => trailers fuel (.call e) rest
    | .opening .round :: rest => do
      let rest ← arguments inner fuel .start rest
      trailers fuel .other rest
    | .opening .square :: rest => do
      let rest ← subscript inner fuel rest
      trailers fuel .member rest
    | _ => some (e, ts)

/-- An operand without operators. -/
def primary (fuel : Nat) : Rule Expression := fun ts => do
  let (e, rest) ← atom inner fuel ts
  trailers inner fuel e rest

def arithmetic (fuel : Nat) : Rule Expression :=
  chain arithmeticJoin? (factor (primary inner fuel)) fuel

def disjunction (fuel : Nat) : Rule Expression :=
  chain logicalJoin? (inversion (chain comparisonJoin? (arithmetic inner fuel) fuel)) fuel

/-- Any expression: a function, or a disjunction with a condition and another choice after it or
without them. -/
def expression (fuel : Nat) : Rule Expression
  | .word "lambda" :: rest => do
    let rest ← parameters inner fuel .start rest
    let (_, rest) ← inner.expression rest
    return (.other, rest)
  | ts => do
    let (e, rest) ← disjunction inner fuel ts
    match rest with
    | .word "if" :: rest => do
      let (_, rest) ← inner.disjunction rest
      match rest with
      | .word "else" :: rest => (inner.expression rest).map fun (_, rest) => (.other, rest)
      | _ => none
    | _ => some (e, rest)

end

/-- The rules for what stands at most `fuel` tokens deep. -/
def rules : Nat → Rules
  | 0 => ⟨fun _ => none, fun _ => none, fun _ => none⟩
  | fuel + 1 =>
    let inner := rules fuel
    ⟨expression inner (fuel + 1), arithmetic inner (fuel + 1), disjunction inner (fuel + 1)⟩

/-- The expression that the tokens write. Commas outside brackets make a tuple. -/
def read? (tokens : List Token) : Option Expression := do
  let fuel := tokens.length + 1
  let (e, rest) ← (rules fuel).expression tokens
  match rest with
  | [] => some e
  | .symbol .comma :: rest =>
    (series (rules fuel).expression end? fuel [e] rest).map fun (items, _) => .tuple items
  | _ => none

end DocIndex.Expression.Grammar
