import DocIndex.Frame

/-! # Frames as text

Each result is a row, with its container if it has a single hit. A result with several hits is
followed by a row for each of them. The selected entry and the selected hit are marked.
-/

namespace DocIndex

/-- What tells a hit from its siblings: its disambiguator, container or document, the first that
is not empty, and its file. -/
def Hit.describe (hit : Hit) : String :=
  let texts := [hit.disambiguator.getD "", hit.container, hit.document]
  let text := (texts.find? (· ≠ "")).getD ""
  if hit.fileLabel = "" then text
  else if text = "" then hit.fileLabel
  else text ++ " (" ++ hit.fileLabel ++ ")"

/-- The row of one of several hits. -/
def Hit.row (hit : Hit) (selected : Bool) : String :=
  "    " ++ (if selected then "*" else "-") ++ " " ++ hit.describe

/-- The rows of hits, counted from `place` on, of which the one at `selected` is marked. -/
def Hit.rows (hits : List Hit) (place : Nat) (selected : Option Int) : List String :=
  match hits with
  | [] => []
  | hit :: rest => hit.row (selected == some (place : Int)) :: Hit.rows rest (place + 1) selected

/-- The rows of an entry. If it is selected, `selected` is the place of the selected hit. -/
def Entry.rows (e : Entry) (selected : Option Int) : List String :=
  let title := (if selected.isSome then ">" else " ") ++ " " ++ e.label
  match e.hits with
  | [hit] => [title ++ (if hit.container = "" then "" else "  " ++ hit.container)]
  | hits => title :: Hit.rows hits 0 selected

namespace Frame

def searchingText : String := "Searching..."

def noMatchesText : String := "No Matches"

/-- The rows of results, counted from `place` on. -/
def resultRows (f : Frame) (place : Nat) : List Entry → List String
  | [] => []
  | e :: rest =>
    e.rows (if (place : Int) = f.selected then some f.selectedHit else none) ++
      f.resultRows (place + 1) rest

def rows (f : Frame) : List String :=
  if f.phase = .debouncing ∨ f.phase = .loading then [searchingText]
  else if f.noMatches then [noMatchesText]
  else f.resultRows 0 f.results

def text (f : Frame) : String := "\n".intercalate f.rows ++ "\n"

end Frame

end DocIndex
