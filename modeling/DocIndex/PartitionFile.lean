import DocIndex.Literal.Reading
import DocIndex.Partition
import DocIndex.Record
import DocIndex.Text.Word

/-! # Partition files

A partition file binds a name to an array of records, as a script would. Reading keeps the
records that describe entries, the first for each key, in key order; writing gives one row to
each entry.
-/

namespace DocIndex.PartitionFile

open Text

/-! ## Errors -/

/-- Why a file is not read. Faults in its structure are format errors; the other faults come
from single values. -/
inductive ReadError where
  | noBinding
  /-- The value is no literal. What is said of it comes from the reader of literals. -/
  | unreadableArray (complaint : String)
  | notArray (typeName : String)
  | unhashable (typeName : String)
  | numberTooLarge
  | internal (message : String)
  | surrogate (n : Nat)
  | longNumber (digits : Nat)
  | unshowable
  deriving DecidableEq, Repr

namespace ReadError

def message : ReadError → String
  | noBinding => "partition file does not start with a variable binding"
  | unreadableArray complaint => "cannot read partition array: " ++ complaint
  | notArray typeName => "partition binding holds " ++ typeName ++ ", expected an array"
  | unhashable typeName => "unhashable type: " ++ quote typeName
  | numberTooLarge => "int too large to convert to float"
  | internal message => message
  | surrogate n =>
    "'utf-8' codec can't encode character '\\u" ++ String.ofList (hexPad 4 n) ++
      "' in position 0: surrogates not allowed"
  | longNumber digits => Decimal.tooManyDigits digits
  | unshowable => Decimal.limitExceeded ""

/-- The kind of error, as it is named before its message. -/
def kind : ReadError → String
  | noBinding | unreadableArray _ | notArray _ => "PartitionFormatError"
  | unhashable _ => "TypeError"
  | numberTooLarge => "OverflowError"
  | internal _ => "SystemError"
  | surrogate _ => "UnicodeEncodeError"
  | longNumber _ | unshowable => "ValueError"

/-- The error that a fault of the value is for its file, unless the value is no literal, which is
an error of the structure. -/
def ofValue? : Literal.Fault → Option ReadError
  | .unreadable => none
  | .unhashable typeName => some (.unhashable typeName)
  | .tooLarge => some .numberTooLarge
  | .internal message => some (.internal message)

/-- Whether the fault is in the structure of the file. -/
def isFormat : ReadError → Bool
  | noBinding | unreadableArray _ | notArray _ => true
  | _ => false

theorem isFormat_of_ofValue? {fault : Literal.Fault} {e : ReadError} (h : ofValue? fault = some e) :
    e.isFormat = false := by
  cases fault <;> cases h <;> rfl

theorem exists_ofValue? {fault : Literal.Fault} (h : fault ≠ .unreadable) :
    ∃ e, ofValue? fault = some e := by
  cases fault with
  | unreadable => exact absurd rfl h
  | unhashable typeName => exact ⟨_, rfl⟩
  | tooLarge => exact ⟨_, rfl⟩
  | internal message => exact ⟨_, rfl⟩

end ReadError

theorem kind_eq_of_isFormat_iff (e : ReadError) :
    e.kind = ReadError.noBinding.kind ↔ e.isFormat = true := by
  cases e <;> simp [ReadError.kind, ReadError.isFormat]

/-! ## The binding -/

/-- The words that begin a binding. -/
def keywords : List (List Char) := [['v', 'a', 'r'], ['l', 'e', 't'], ['c', 'o', 'n', 's', 't']]

def beginsName (c : Char) : Bool := c.isAlpha || c == '_' || c == '$'

/-- Whether `c` may stand within a name. -/
def continuesName (c : Char) : Bool := isWord c || c == '$'

/-- The name at the start of `s`, and what follows it. -/
def takeName? (s : List Char) : Option (List Char × List Char) :=
  match s with
  | c :: rest =>
    if beginsName c then
      some (c :: rest.takeWhile continuesName, rest.dropWhile continuesName)
    else none
  | [] => none

/-- The text `s` without a keyword and the white space after it. -/
def dropKeyword? (s : List Char) : Option (List Char) :=
  (keywords.find? (·.isPrefixOf s)).bind fun word =>
    match s.drop word.length with
    | c :: rest => if isBlank c then some (stripLeft rest) else none
    | [] => none

/-- The name that a file binds, and the text of the value. -/
def splitBinding? (s : List Char) : Option (List Char × List Char) := do
  let s ← dropKeyword? (stripLeft s)
  let (name, rest) ← takeName? s
  match stripLeft rest with
  | '=' :: body => some (name, body)
  | _ => none

/-- The text of a value without white space around it and without the semicolon that ends it. -/
def trimBody (s : List Char) : List Char :=
  let body := strip s
  if body.getLast? = some ';' then stripRight body.dropLast else body

variable [Literal.Reader]

/-- The name that a file binds, and the items of its array. -/
def readBinding (s : List Char) : Except ReadError (String × List Literal) :=
  match splitBinding? s with
  | none => .error .noBinding
  | some (name, body) =>
    match Literal.read (trimBody body) with
    | .ok (.list items) => .ok (String.ofList name, items)
    | .ok v => .error (.notArray v.typeName)
    | .error fault =>
      .error ((ReadError.ofValue? fault).getD
        (.unreadableArray (Literal.Reader.complaint (trimBody body))))

/-! ## Reading -/

/-- What is remarked of a file that is read. -/
inductive Warning where
  | unsorted
  | dropped (count : Nat)
  deriving DecidableEq, Repr

/-- The remark on the file with this title. -/
def Warning.message (title : String) : Warning → String
  | .unsorted => "partition " ++ title ++ " is not sorted by key; sorting on load"
  | .dropped count =>
    "dropped " ++ toString count ++ " malformed record(s) from partition " ++ title

/-- A file that has been read: its name, its entries in key order, and the number of records
that were left out. -/
structure Parsed where
  name : String
  entries : List Entry
  dropped : Nat
  warnings : List Warning

/-- The error that the fault of a record is for the file, unless the record is malformed, which
leaves the others as they are. -/
def ReadError.ofFault? : Record.Fault → Option ReadError
  | .malformed _ => none
  | .surrogate n => some (.surrogate n)
  | .longNumber digits => some (.longNumber digits)
  | .unshowable => some .unshowable

/-- The entries of the records, without those of malformed ones. -/
def readRecords : List Literal → Except ReadError (List Entry)
  | [] => .ok []
  | record :: rest =>
    match Record.read record with
    | .ok e => (readRecords rest).map (e :: ·)
    | .error fault =>
      match ReadError.ofFault? fault with
      | some e => .error e
      | none => readRecords rest

/-- Whether a key may stand in the file of `partition?`. -/
def admits (partition? : Option Partition) (key : String) : Bool :=
  match partition? with
  | none => true
  | some p => Partition.ofKey key == p

def firstOfEachKey : List Entry → List Entry
  | [] => []
  | e :: rest => e :: (firstOfEachKey rest).filter (·.key ≠ e.key)

/-- Whether no entry stands before one with a smaller key. -/
def isSorted : List Entry → Bool
  | a :: b :: rest => decide (a.key ≤ b.key) && isSorted (b :: rest)
  | _ => true

/-- What is kept of `total` records whose well-formed ones are `entries`. -/
def collect (name : String) (partition? : Option Partition) (total : Nat)
    (entries : List Entry) : Parsed :=
  let kept := firstOfEachKey (entries.filter fun e => admits partition? e.key)
  let dropped := total - kept.length
  { name
    entries := if isSorted kept then kept else Entry.sort kept
    dropped
    warnings :=
      (if isSorted kept then [] else [.unsorted]) ++
        (if dropped = 0 then [] else [.dropped dropped]) }

/-- The file with this text, which may be known to belong to a partition. A text holds
no lone surrogates, since decoding bytes gives none. -/
def parse (text : String) (partition? : Option Partition) : Except ReadError Parsed := do
  let (name, records) ← readBinding (unifyLineEnds text.toList)
  let entries ← readRecords records
  return collect name partition? records.length entries

/-- How a file is called in remarks: by its partition, or else by the name it binds. -/
def title (partition? : Option Partition) (name : String) : String :=
  match partition? with
  | some p => p.token.toString
  | none => name

/-- The remarks on a file that has been read. -/
def Parsed.remarks (parsed : Parsed) (partition? : Option Partition) : List String :=
  parsed.warnings.map (Warning.message (title partition? parsed.name))

/-! ## Writing -/

/-- The name that a file binds unless another is chosen. -/
def defaultName : String := "searchData"

/-- A character within quotation marks. -/
def quoteChar (c : Char) : List Char :=
  if c = '\\' ∨ c = '\'' then ['\\', c]
  else if c.toNat < 0x20 then '\\' :: 'x' :: hexPad 2 c.toNat
  else [c]

/-- A text as it is written in a file. -/
def writeText (s : String) : List Char :=
  '\'' :: (Markup.escape s.toList).flatMap quoteChar ++ ['\'']

/-- The texts `parts` with commas between them. -/
def commaSeparated (parts : List (List Char)) : List Char := [','].intercalate parts

def writeHit (hit : Hit) : List Char :=
  '[' :: commaSeparated
    ((hit.anchor :: hit.container :: hit.fileLabel :: hit.disambiguator.toList).map writeText) ++
    [']']

def writeEntry (e : Entry) : List Char :=
  ' ' :: ' ' :: '[' :: commaSeparated
    [writeText e.key, '[' :: commaSeparated (writeText e.label :: e.hits.map writeHit) ++ [']']] ++
    [']']

/-- The file that binds `name` to the entries, in key order. -/
def dump (entries : List Entry) (name : String) : String :=
  String.ofList ("var ".toList ++ name.toList ++ "=\n[\n".toList ++
    [',', '\n'].intercalate ((Entry.sort entries).map writeEntry) ++ "\n];\n".toList)

end DocIndex.PartitionFile
