import DocIndex.Entry
import DocIndex.Literal.Basic
import DocIndex.Markup.Reference
import DocIndex.Text.Split

/-! # Records

A record is the literal form of an entry: a key and a body, which is the label followed by the
hits. A hit names its anchor, container and file, and perhaps a text that tells it from its
siblings. In the older layout a hit has a flag after its anchor, and one text says where the
name stands: `container`, `container::name()` or a signature and a file. All texts but the key
hold character references.
-/

namespace DocIndex.Record

open Text

/-- What a text within a record is for. -/
inductive Role where
  | label
  | anchor
  | scope
  | container
  | fileLabel
  | disambiguator
  deriving DecidableEq, Repr

def Role.name : Role → String
  | .label => "entry label"
  | .anchor => "hit anchor"
  | .scope => "scope text"
  | .container => "hit container"
  | .fileLabel => "hit file label"
  | .disambiguator => "hit disambiguator"

inductive Flaw where
  | notPair (record : Literal)
  | keyNotText (key : Literal)
  | noBody (key : CodePoints)
  | notText (role : Role) (typeName : String)
  | hitShape (hit : Literal)
  | flaggedHitShape (hit : Literal)
  | entry (e : EntryError)

def Flaw.message : Flaw → String
  | .notPair record => "record must be [key, [label, hit, ...]]: " ++ record.display
  | .keyNotText key => "record key must be a string: " ++ key.display
  | .noBody key => "record body must be [label, hit, ...] for key " ++ Quoted.render key
  | .notText role typeName => role.name ++ " must be a string, got " ++ typeName
  | .hitShape hit => "hit must have 3 or 4 elements: " ++ hit.display
  | .flaggedHitShape hit => "hit with a link flag must have 3 elements: " ++ hit.display
  | .entry e => e.message

/-- Why a record is not read: it is malformed, its label holds a lone surrogate, a number in a
character reference is too long, or a malformed part cannot even be shown. -/
inductive Fault where
  | malformed (flaw : Flaw)
  | surrogate (n : Nat)
  | longNumber (digits : Nat)
  | unshowable

/-- The fault of a malformed part, which its message shows. -/
def flawed (part : Literal) (flaw : Literal → Flaw) : Fault :=
  if part.isShowable then .malformed (flaw part) else .unshowable

/-- The text of a literal that stands for `role`, its references not yet resolved. -/
def readText (role : Role) (v : Literal) : Except Fault CodePoints :=
  match v with
  | .text s =>
    match Markup.overlong? s.lossy with
    | some digits => .error (.longNumber digits)
    | none => .ok s
  | _ => .error (.malformed (.notText role v.typeName))

/-- The characters of a text, its references resolved. Hits hold no lone surrogates here: those in
an anchor, a container, a file label or a disambiguator are replaced, which makes no other
difference to a hit. A label that holds one is refused. -/
def resolve (s : CodePoints) : String := String.ofList (Markup.unescape s.lossy)

/-- The text that a literal stands for. -/
def readString (role : Role) (v : Literal) : Except Fault String :=
  (readText role v).map resolve

/-! ## Hits -/

/-- Where a hit stands. -/
structure Scope where
  container : List Char
  fileLabel : List Char
  disambiguator : Option (List Char)
  deriving DecidableEq, Repr

/-- What separates a signature from the file that holds it. -/
def signatureMark : List Char := [':', '\u00a0']

/-- What separates the names of nested scopes. -/
def scopeMark : List Char := [':', ':']

/-- The text `s`, unless it is empty. -/
def nonempty? (s : List Char) : Option (List Char) := if s.isEmpty then none else some s

/-- The container that a text before the file label names, with or without a signature. -/
def containerOf (signed : Bool) (head : List Char) : List Char :=
  match splitLast? scopeMark (head.takeWhile (· ≠ '(')) with
  | some (container, _) => container
  | none => if !signed && !head.contains '(' then head else []

/-- The scope that the one text of the older layout describes. -/
def Scope.ofText (text : List Char) : Scope :=
  match splitLast? signatureMark text with
  | some (signature, file) => ⟨containerOf true signature, file, nonempty? signature⟩
  | none => ⟨containerOf false text, [], none⟩

/-- The hit at `anchor` in a scope. -/
def hitAt (anchor : String) (scope : Scope) : Except Fault Hit :=
  (Hit.make anchor (String.ofList scope.container) (String.ofList scope.fileLabel)
    (scope.disambiguator.map String.ofList)).mapError (.malformed ∘ .entry)

/-- The hit with these parts, an empty disambiguator being none. -/
def hitOf (anchor container fileLabel disambiguator : String) : Except Fault Hit :=
  hitAt anchor ⟨container.toList, fileLabel.toList, nonempty? disambiguator.toList⟩

def readHit (raw : Literal) : Except Fault Hit :=
  match raw.items? with
  | some [a, b, c] => do
    let anchor ← readString .anchor a
    if b.isInt then
      let text ← readString .scope c
      hitAt anchor (Scope.ofText text.toList)
    else
      let container ← readString .container b
      let fileLabel ← readString .fileLabel c
      hitOf anchor container fileLabel ""
  | some [a, b, c, d] => do
    let anchor ← readString .anchor a
    if b.isInt then .error (flawed raw .flaggedHitShape)
    else
      let container ← readString .container b
      let fileLabel ← readString .fileLabel c
      let disambiguator ← readString .disambiguator d
      hitOf anchor container fileLabel disambiguator
  | _ => .error (flawed raw .hitShape)

/-- The hits that follow a label. They stand side by side or in one list of their own, which is
known by its first item being a list. -/
def rawHits (rest : List Literal) : List Literal :=
  match rest with
  | [v] =>
    match v.items? with
    | some (first :: others) => if first.items?.isSome then first :: others else rest
    | _ => rest
  | _ => rest

/-! ## Entries -/

/-- The entry of these parts. A lone surrogate in the label shows once a key and hits are
there, when the label is to be compared with the key. -/
def assemble (key : String) (label : CodePoints) (hits : List Hit) : Except Fault Entry :=
  let entry := (Entry.make key (resolve label) hits).mapError (.malformed ∘ .entry)
  match label.firstSurrogate? with
  | some n => if key ≠ "" ∧ hits ≠ [] then .error (.surrogate n) else entry
  | none => entry

def read (record : Literal) : Except Fault Entry :=
  match record.items? with
  | some [.text key, body] =>
    match body.items? with
    | some (label :: rest) => do
      let label ← readText .label label
      let hits ← (rawHits rest).mapM readHit
      assemble (String.ofList key.lossy) label hits
    | _ => .error (.malformed (.noBody key))
  | some [key, _] => .error (flawed key .keyNotText)
  | _ => .error (flawed record .notPair)

end DocIndex.Record
