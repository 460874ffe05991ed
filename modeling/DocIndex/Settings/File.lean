import DocIndex.Json.Printer
import DocIndex.Json.Reader
import DocIndex.Settings.Draft
import DocIndex.Text.Utf8

/-! # The settings file

Settings are kept as fields of a JSON object, beside fields of others. A file without such an
object counts as an empty one, and a file that cannot be written stays as it is.
-/

namespace DocIndex

/-- What is found at the path of the settings file. -/
inductive SettingsFile where
  | missing
  | file (bytes : List UInt8)
  /-- A folder stands at the path. -/
  | folder
  /-- The path leads through a file. -/
  | blocked

namespace SettingsFile

/-- The content of the file, if there is one. -/
def bytes? : SettingsFile → Option (List UInt8)
  | file bytes => some bytes
  | _ => none

/-- The value that the file holds, if it can be read. -/
def value? (f : SettingsFile) : Option Json :=
  f.bytes?.bind fun bytes => ((Text.Utf8.decode bytes).toOption).bind Json.read?

/-- The fields of the object that the file holds. -/
def fields (f : SettingsFile) : Json.Fields :=
  match f.value? with
  | some (.object fields) => fields
  | _ => []

/-- The settings that the file chooses. -/
def settings (f : SettingsFile) : Except Fault Settings := Settings.ofFields f.fields

/-- The file after an object has been written to it. -/
def write (f : SettingsFile) (fields : Json.Fields) : SettingsFile :=
  match f with
  | missing | file _ => file (Text.Utf8.encode (Json.write 0 (.object fields) ++ ['\n']))
  | folder => folder
  | blocked => blocked

/-- The file after settings have been saved in it. -/
def save (f : SettingsFile) (d : Settings.Draft) : Except Fault SettingsFile :=
  (d.merge f.fields).map f.write

end SettingsFile

end DocIndex
