import DocIndex.Source.Failure
import DocIndex.Source.Path
import DocIndex.Text.Quoted
import DocIndex.Text.Split
import DocIndex.Text.Utf8

/-! # Folders as sources

A file is read as UTF-8, a byte order mark at its start left out, and if it is not UTF-8 then
byte by byte. Lines end in single line feeds however they end in the file.
-/

namespace DocIndex

open Text

/-! ## Texts from bytes -/

/-- Whether the bytes are a byte order mark that has been cut short. Nothing follows it, so the
file is empty. -/
def isCutMark (bytes : List UInt8) : Bool := bytes == [0xef] || bytes == [0xef, 0xbb]

/-- The characters of a file before its line ends are made alike. -/
def decodeFile (bytes : List UInt8) : List Char :=
  if isCutMark bytes then []
  else match Utf8.decode (Utf8.dropMark bytes) with
    | .ok chars => chars
    | .error _ => bytes.map fun b => Char.ofNat b.toNat

def fileText (bytes : List UInt8) : String := String.ofList (unifyLineEnds (decodeFile bytes))

/-! ## Files in folders -/

/-- Why a path leads to no file. -/
inductive PathError where
  | missing
  | notFolder
  | isFolder
  | nameTooLong
  deriving DecidableEq, Repr

namespace PathError

def number : PathError → Nat
  | missing => 2
  | notFolder => 20
  | isFolder => 21
  | nameTooLong => 36

def text : PathError → String
  | missing => "No such file or directory"
  | notFolder => "Not a directory"
  | isFolder => "Is a directory"
  | nameTooLong => "File name too long"

def kind : PathError → String
  | missing => "FileNotFoundError"
  | notFolder => "NotADirectoryError"
  | isFolder => "IsADirectoryError"
  | nameTooLong => "OSError"

/-- The error met on a path. -/
def toFault (e : PathError) (path : String) : Fault :=
  ⟨e.kind, "[Errno " ++ toString e.number ++ "] " ++ e.text ++ ": " ++ quote path⟩

end PathError

/-- A folder: how its own path is written, its files, and the folders within it. What it holds is
named by the sequence of names that leads to it. -/
structure Folder where
  path : String
  files : List (List String × List UInt8)
  folders : List (List String)

namespace Folder

/-- Whether a sequence of names leads to a folder. A file makes the folders above it. -/
def isFolder (d : Folder) (names : List String) : Bool :=
  names.isEmpty || d.folders.any names.isPrefixOf ||
    d.files.any fun (file, _) => names.isPrefixOf file && names != file

/-- The bytes of the file to which a sequence of names leads. -/
def bytes? (d : Folder) (names : List String) : Option (List UInt8) := d.files.lookup names

def nameLimit : Nat := 255

/-- Follows names from the folder `here` inward and outward. Nothing is known to be outside. -/
def follow (d : Folder) (here : List String) : List String → Except PathError (List String)
  | [] => .ok here
  | name :: rest =>
    if !d.isFolder here then .error .notFolder
    else if name = ".." then
      if here.isEmpty then
        .error (if rest.all (· = "..") then .isFolder else .missing)
      else d.follow here.dropLast rest
    else if nameLimit < name.utf8ByteSize then .error .nameTooLong
    else
      let next := here ++ [name]
      if d.isFolder next || (d.bytes? next).isSome then d.follow next rest else .error .missing

/-- The bytes to which a path leads. An absolute path leads outside. -/
def readBytes (d : Folder) (path : Path) : Except PathError (List UInt8) :=
  if 0 < path.root then
    .error (if path.names.all (· = "..") then .isFolder else .missing)
  else
    (d.follow [] path.names).bind fun names =>
      match d.bytes? names with
      | some bytes => .ok bytes
      | none => .error .isFolder

/-- How a path from the folder is written. -/
def fullPath (d : Folder) (path : Path) : String :=
  if 0 < path.root then path.render else "/".intercalate (d.path :: path.names)

def fetch (d : Folder) (fileName : String) : Except FetchFailure String :=
  if fileName.toList.contains '\x00' then .error (.broken ⟨"ValueError", "embedded null byte"⟩)
  else
    let path := Path.ofString fileName
    match d.readBytes path with
    | .ok bytes => .ok (fileText bytes)
    | .error e => .error (.unavailable ⟨fileName, none, some (e.toFault (d.fullPath path))⟩)

end Folder

end DocIndex
