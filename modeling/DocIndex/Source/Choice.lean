import DocIndex.Source.Path
import DocIndex.Source.Web

/-! # The choice of a source -/

namespace DocIndex

/-- Where partition files come from. -/
inductive Source where
  | web (server : WebSource)
  | folder (path : Path)

/-- The source of this name: a web address, or the path of a folder. -/
def Source.ofName (name : String) (timeout : Float) : Source :=
  if "http://".toList.isPrefixOf name.toList ∨ "https://".toList.isPrefixOf name.toList then
    .web (.make name timeout)
  else .folder (.ofString name)

end DocIndex
