import DocIndex.Source.Failure
import DocIndex.Text.Lowercase
import DocIndex.Text.Split
import DocIndex.Text.Utf8

/-! # Web servers as sources

A file is asked for below a base address. A response that names its character set is taken as it
has been decoded by it; any other is read as UTF-8.
-/

namespace DocIndex

open Text

/-- What a server answers. `text` is the content decoded by the character set that the headers
declare. -/
structure Response where
  status : Int
  reason : Option String
  headers : List (String × String)
  content : List UInt8
  text : String

namespace Response

def lowered (s : String) : String := String.ofList (lower s.toList)

/-- The value of a header, whose name is given in lower case. Of several the last counts. -/
def header? (r : Response) (name : String) : Option String :=
  (r.headers.reverse.find? fun (n, _) => lowered n == name).map (·.2)

/-- Whether the headers declare a character set. -/
def namesCharset (r : Response) : Bool :=
  occurs "charset=".toList (lower ((r.header? "content-type").getD "").toList)

/-- The text of a file in a response. -/
def body (r : Response) : String :=
  if r.namesCharset then r.text
  else String.ofList (Utf8.decodeLossy (Utf8.dropMark r.content))

/-- The least status that reports a failure. -/
def failureStatus : Int := 400

end Response

/-- A server, by the address below which its files are, without a slash at its end, and the
seconds to wait for an answer. -/
structure WebSource where
  base : String
  timeout : Float

namespace WebSource

/-- The seconds to wait for an answer unless others are chosen. -/
def defaultTimeout : Float := 10.0

def make (base : String) (timeout : Float) : WebSource :=
  ⟨String.ofList (base.toList.reverse.dropWhile (· == '/')).reverse, timeout⟩

def address (w : WebSource) (fileName : String) : String :=
  w.base ++ "/" ++ String.ofList (fileName.toList.dropWhile (· == '/'))

/-- The kinds of error that mean that no answer came. -/
def transportKinds : List String :=
  ["RequestException", "ConnectionError", "Timeout", "InvalidURL"]

/-- The text of a file, from what became of asking for it. -/
def receive (fileName : String) : Except Fault Response → Except FetchFailure String
  | .error f =>
    if transportKinds.contains f.kind then .error (.unavailable ⟨fileName, none, some f⟩)
    else .error (.broken f)
  | .ok r =>
    if Response.failureStatus ≤ r.status then
      let reason := toString r.status ++ " " ++ r.reason.getD "None"
      .error (.unavailable ⟨fileName, some reason, none⟩)
    else .ok r.body

end WebSource

end DocIndex
