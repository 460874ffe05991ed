import DocIndex.Key

/-! # Entries and their hits

An entry is a label with its key and the documented occurrences of the name, in order. Entries
are compared by key alone.
-/

namespace DocIndex

/-- Why an entry or a hit is refused. -/
inductive EntryError where
  | emptyAnchor
  | emptyKey
  | noHits (key : String)
  | foreignHit (key : String)
  | labelMismatch (label key : String)
  deriving DecidableEq, Repr

def EntryError.message : EntryError → String
  | .emptyAnchor => "hit anchor must be a non-empty string"
  | .emptyKey => "entry key must not be empty"
  | .noHits key => "entry " ++ Text.quote key ++ " has no hits"
  | .foreignHit key => "entry " ++ Text.quote key ++ " holds a non-Hit occurrence"
  | .labelMismatch label key =>
    "label " ++ Text.quote label ++ " does not normalize to key " ++ Text.quote key

/-- One documented occurrence of a name: the place it leads to, the scope and the file that
hold it, and a text that tells it from the other hits of its entry. -/
structure Hit where
  anchor : String
  container : String
  fileLabel : String
  disambiguator : Option String
  anchor_ne : anchor ≠ ""
  deriving DecidableEq

namespace Hit

/-- The hit with these parts; its anchor must not be empty. -/
def make (anchor container fileLabel : String) (disambiguator : Option String) :
    Except EntryError Hit :=
  if h : anchor = "" then .error .emptyAnchor
  else .ok ⟨anchor, container, fileLabel, disambiguator, h⟩

/-- The document of the anchor: what stands before its first `#`. -/
def document (hit : Hit) : String := String.ofList (hit.anchor.toList.takeWhile (· ≠ '#'))

/-- The place within the document: what stands after the first `#`. -/
def fragment (hit : Hit) : String :=
  String.ofList ((hit.anchor.toList.dropWhile (· ≠ '#')).drop 1)

end Hit

/-- A searchable name: its key, its label, and at least one hit. -/
structure Entry where
  key : String
  label : String
  hits : List Hit
  key_ne : key ≠ ""
  hits_ne : hits ≠ []
  normalize_label : Key.normalize label = key
  deriving DecidableEq

namespace Entry

def make (key label : String) (hits : List Hit) : Except EntryError Entry :=
  if hk : key = "" then .error .emptyKey
  else if hh : hits = [] then .error (.noHits key)
  else if hl : Key.normalize label = key then .ok ⟨key, label, hits, hk, hh, hl⟩
  else .error (.labelMismatch label key)

/-- Only the entry that has these parts is made of them. -/
theorem make_eq_ok_iff {key label : String} {hits : List Hit} {e : Entry} :
    make key label hits = .ok e ↔ e.key = key ∧ e.label = label ∧ e.hits = hits := by
  constructor
  · intro h
    unfold make at h
    split at h
    · cases h
    · split at h
      · cases h
      · split at h
        · cases h
          exact ⟨rfl, rfl, rfl⟩
        · cases h
  · rintro ⟨rfl, rfl, rfl⟩
    simp [make, e.key_ne, e.hits_ne, e.normalize_label]

/-- The entry with these parts, where `none` stands for an occurrence that is not a hit. -/
def ofOccurrences (key label : String) (occurrences : List (Option Hit)) :
    Except EntryError Entry :=
  match occurrences.mapM id with
  | some hits => make key label hits
  | none => if key = "" then .error .emptyKey else .error (.foreignHit key)

/-- The entry whose key is that of its label. -/
def ofLabel (label : String) (hits : List Hit) : Except EntryError Entry :=
  make (Key.normalize label) label hits

def firstCharacter (e : Entry) : String := String.ofList (e.key.toList.take 1)

/-- Whether the entry has several hits to choose from. -/
def isAmbiguous (e : Entry) : Bool := decide (1 < e.hits.length)

/-- Entries are ordered by their keys, code point by code point. -/
def compare (a b : Entry) : Ordering := Ord.compare a.key b.key

/-- Whether `a` may stand before `b` in key order. -/
def keyLE (a b : Entry) : Bool := decide (a.key ≤ b.key)

/-- The entries in key order; those of one key keep their order. -/
def sort (entries : List Entry) : List Entry := entries.mergeSort keyLE

end Entry

end DocIndex
