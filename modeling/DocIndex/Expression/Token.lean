import DocIndex.Expression.Numeral
import DocIndex.Expression.Quotation
import DocIndex.Text.CodePoints
import DocIndex.Text.Identifier

/-! # Tokens

The text of an expression is cut into tokens one character at a time. Spaces, tabs and form feeds
separate tokens, a number sign begins a comment, and a backslash joins a line to the next. Line
ends are tokens, since outside brackets they end the expression.
-/

namespace DocIndex.Expression

open Text

inductive Bracket where
  | round
  | square
  | curly
  deriving DecidableEq, Repr

/-- Operators and punctuation. Those that no rule tells apart are one symbol: `operator` stands
between two operands, and so does `comparison`. -/
inductive Symbol where
  | comma
  | colon
  | dot
  | ellipsis
  | plus
  | minus
  | star
  | doubleStar
  | slash
  | tilde
  | equals
  | define
  | operator
  | comparison
  deriving DecidableEq, Repr

inductive Token where
  | opening (b : Bracket)
  | closing (b : Bracket)
  | symbol (s : Symbol)
  | word (name : String)
  | number (value : Literal)
  | text (s : CodePoints)
  | bytes (b : List Nat)
  /-- A text with fields, as it stands between its quotation marks. -/
  | template (raw : Bool) (body : List Char)
  | lineEnd

variable [CharacterNames]

/-! ## Single tokens -/

/-- The token of what stands between quotation marks. Bytes are written in ASCII. -/
def quotedToken? (content : Content) (body : List Char) : Option Token :=
  match content.kind with
  | .text => (content.points? body).map fun points => .text ⟨points⟩
  | .bytes =>
    if body.any fun c => decide (0x80 ≤ c.toNat) then none
    else (content.points? body).map .bytes
  | .template => some (.template content.raw body)

/-- The words that may follow a number with no space between. -/
def wordsAfterNumber : List String := ["and", "else", "for", "if", "in", "is", "not", "or"]

/-- The token of the characters `run` of a word, the last one first. `glued` says that the word
follows a number directly. -/
def wordToken? (glued : Bool) (run : List Char) : Option Token :=
  let name := String.ofList run.reverse
  if (if glued then wordsAfterNumber.contains name else isIdentifier run.reverse) then
    some (.word name)
  else none

/-- The bracket or symbol that a character is by itself, whatever follows it. -/
def mark? (c : Char) : Option Token :=
  if c = '(' then some (.opening .round)
  else if c = ')' then some (.closing .round)
  else if c = '[' then some (.opening .square)
  else if c = ']' then some (.closing .square)
  else if c = '\x7b' then some (.opening .curly)
  else if c = '\x7d' then some (.closing .curly)
  else if c = ',' then some (.symbol .comma)
  else if c = '+' then some (.symbol .plus)
  else if c = '-' then some (.symbol .minus)
  else if c = '~' then some (.symbol .tilde)
  else if c = '%' ∨ c = '@' ∨ c = '&' ∨ c = '|' ∨ c = '^' then some (.symbol .operator)
  else none

/-- Whether `c` may be the first of two characters that are one symbol. -/
def beginsPair (c : Char) : Bool :=
  c == '*' || c == '/' || c == '<' || c == '>' || c == '=' || c == '!' || c == ':'

/-- The symbol that two characters are together. -/
def pair? (first second : Char) : Option Symbol :=
  if first = '*' ∧ second = '*' then some .doubleStar
  else if first = second ∧ (first = '/' ∨ first = '<' ∨ first = '>') then some .operator
  else if second = '=' ∧ (first = '<' ∨ first = '>' ∨ first = '=' ∨ first = '!') then
    some .comparison
  else if second = '=' ∧ first = ':' then some .define
  else none

/-- The symbol that the first character of a pair is if the second does not follow. -/
def single? (c : Char) : Option Token :=
  if c = '*' then some (.symbol .star)
  else if c = '/' then some (.symbol .slash)
  else if c = '<' ∨ c = '>' then some (.symbol .comparison)
  else if c = '=' then some (.symbol .equals)
  else if c = ':' then some (.symbol .colon)
  else none

/-! ## The cutting -/

/-- How far the reading of a token has come. Runs of characters hold the last one first. -/
inductive Scan where
  | between
  | word (glued : Bool) (run : List Char)
  | number (progress : Numeral) (run : List Char)
  | dot
  | dots
  /-- After a character that may be the first of a pair. -/
  | half (c : Char)
  | comment
  /-- After a backslash between tokens. -/
  | joint
  /-- After a backslash and a line end. -/
  | joined
  /-- After an opening quotation mark. -/
  | opened (content : Content) (quote : Char)
  /-- After two quotation marks: the text is empty, or a third mark opens a long one. -/
  | openedTwice (content : Content) (quote : Char)
  /-- Within quotation marks, of which `marks` in a row have just been read. Three marks close
  a long text, which may hold line ends. -/
  | within (content : Content) (quote : Char) (long : Bool) (run : List Char) (marks : Nat)
      (escaped : Bool)

def isQuote (c : Char) : Bool := c == '\'' || c == '"'

/-- Whether `c` goes on with a word. All characters beyond ASCII do, but not all of them make an
identifier. -/
def isNamePart (c : Char) : Bool := isAsciiWord c || decide (0x80 ≤ c.toNat)

/-- A character that begins a token or separates two. -/
def startToken (c : Char) : Option (List Token × Scan) :=
  if c = ' ' ∨ c = '\t' ∨ c = '\x0c' then some ([], .between)
  else if c = '\n' then some ([.lineEnd], .between)
  else if c = '#' then some ([], .comment)
  else if c = '\\' then some ([], .joint)
  else if isQuote c then some ([], .opened plainText c)
  else if c = '.' then some ([], .dot)
  else if beginsPair c then some ([], .half c)
  else if c.isDigit then some ([], .number (if c = '0' then .zero else .whole) [c])
  else if isNamePart c then some ([], .word false [c])
  else (mark? c).map fun token => ([token], .between)

/-- A finished token, and the character after it. -/
def endToken (token? : Option Token) (c : Char) : Option (List Token × Scan) :=
  match token?, startToken c with
  | some token, some (tokens, next) => some (token :: tokens, next)
  | _, _ => none

/-- The character after a number. It may begin a word directly, and a letter that seemed to
begin an exponent may begin one too. -/
def endNumber (progress : Numeral) (run : List Char) (c : Char) : Option (List Token × Scan) :=
  if isNamePart c then
    match progress, run with
    | .marked, e :: digits =>
      (numeralBeforeWord? digits.reverse).map fun v => ([.number v], .word true [c, e])
    | _, _ => (numeralValue? run.reverse).map fun v => ([.number v], .word true [c])
  else endToken ((numeralValue? run.reverse).map .number) c

/-- One character within quotation marks. -/
def quotedStep (content : Content) (quote : Char) (long : Bool) (run : List Char) (marks : Nat)
    (escaped : Bool) (c : Char) : Option (List Token × Scan) :=
  if escaped then some ([], .within content quote long (c :: run) 0 false)
  else if c = quote then
    if !long then (quotedToken? content run.reverse).map fun t => ([t], .between)
    else if marks < 2 then some ([], .within content quote long (c :: run) (marks + 1) false)
    else (quotedToken? content (run.drop 2).reverse).map fun t => ([t], .between)
  else if c = '\\' then some ([], .within content quote long (c :: run) 0 true)
  else if c = '\n' ∧ !long then none
  else some ([], .within content quote long (c :: run) 0 false)

/-- One character: the tokens it completes and the progress after it. -/
def Scan.step : Scan → Char → Option (List Token × Scan)
  | .between, c => startToken c
  | .word glued run, c =>
    if isNamePart c then some ([], .word glued (c :: run))
    else match isQuote c && !glued, content? run.reverse with
      | true, some content => some ([], .opened content c)
      | _, _ => endToken (wordToken? glued run) c
  | .number progress run, c =>
    match progress.step c with
    | some progress => some ([], .number progress (c :: run))
    | none => endNumber progress run c
  | .dot, c =>
    if c = '.' then some ([], .dots)
    else if c.isDigit then some ([], .number .fraction [c, '.'])
    else endToken (some (.symbol .dot)) c
  | .dots, c => if c = '.' then some ([.symbol .ellipsis], .between) else none
  | .half first, c =>
    match pair? first c with
    | some symbol => some ([.symbol symbol], .between)
    | none => endToken (single? first) c
  | .comment, c => if c = '\n' then some ([.lineEnd], .between) else some ([], .comment)
  | .joint, c => if c = '\n' then some ([], .joined) else none
  | .joined, c => startToken c
  | .opened content quote, c =>
    if c = quote then some ([], .openedTwice content quote)
    else quotedStep content quote false [] 0 false c
  | .openedTwice content quote, c =>
    if c = quote then some ([], .within content quote true [] 0 false)
    else endToken (quotedToken? content []) c
  | .within content quote long run marks escaped, c =>
    quotedStep content quote long run marks escaped c

/-- The tokens completed by the end of the input. -/
def Scan.finish : Scan → Option (List Token)
  | .between => some []
  | .comment => some []
  | .word glued run => (wordToken? glued run).map ([·])
  | .number _ run => (numeralValue? run.reverse).map fun v => [.number v]
  | .openedTwice content _ => (quotedToken? content []).map ([·])
  | _ => none

/-- The tokens of `s` read from progress `scan` on. -/
def tokensFrom (scan : Scan) : List Char → Option (List Token)
  | [] => scan.finish
  | c :: rest =>
    match scan.step c with
    | none => none
    | some (tokens, next) => (tokensFrom next rest).map (tokens ++ ·)

/-- The tokens of `s`, if it can be cut. -/
def tokens? (s : List Char) : Option (List Token) := tokensFrom .between s

end DocIndex.Expression
