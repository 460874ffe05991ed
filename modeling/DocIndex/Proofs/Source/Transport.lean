import DocIndex.Proofs.PartitionFile.LineEnds
import DocIndex.Proofs.Text.Encoding
import DocIndex.Source.Folder
import DocIndex.Source.Web

/-! # Files from folders and from servers

A file in UTF-8 is read alike whether a folder or a server gives it, with one exception: a byte
order mark that a response decoded by its own character set has kept hides the binding.
-/

namespace DocIndex

open Text PartitionFile

/-! ## Byte order marks -/

namespace Text.Utf8

/-- The byte order mark as a character. -/
def markChar : Char := '\ufeff'

/-- The text without a byte order mark at its start. -/
def dropMarkChar (s : List Char) : List Char := if s.head? = some markChar then s.tail else s

theorem encode_cons (c : Char) (s : List Char) :
    encode (c :: s) = String.utf8EncodeChar c ++ encode s := List.flatMap_cons

theorem mark_eq : mark = String.utf8EncodeChar markChar := by decide

/-- A text begins with the mark exactly if its bytes do. -/
theorem mark_isPrefix_encode_iff (s : List Char) :
    mark <+: encode s ↔ s.head? = some markChar := by
  cases s with
  | nil => simp [encode, mark]
  | cons c s =>
      rw [mark_eq, encode_cons, List.head?_cons, Option.some.injEq]
      constructor
      · intro hmark
        rcases List.prefix_or_prefix_of_prefix hmark (List.prefix_append _ (encode s)) with h | h
        · exact (eq_of_encodeChar_isPrefix h).symm
        · exact eq_of_encodeChar_isPrefix h
      · rintro rfl
        exact List.prefix_append _ _

theorem dropMark_encode (s : List Char) : dropMark (encode s) = encode (dropMarkChar s) := by
  have hmark := List.isPrefixOf_iff_prefix.trans (mark_isPrefix_encode_iff s)
  by_cases h : s.head? = some markChar
  · rw [dropMark, dropMarkChar, if_pos (hmark.mpr h), if_pos h]
    obtain ⟨rest, rfl⟩ := List.head?_eq_some_iff.mp h
    rw [encode_cons, ← mark_eq]
    rfl
  · rw [dropMark, dropMarkChar, if_neg (mt hmark.mp h), if_neg h]

theorem decodeLossy_encode (s : List Char) : decodeLossy (encode s) = s := by
  rw [decodeLossy, scan, scanFrom_encode, List.map_map]
  exact List.map_id s

end Text.Utf8

open Text.Utf8

/-- No text has the bytes of a mark that is cut short. -/
theorem isCutMark_encode (s : List Char) : isCutMark (encode s) = false := by
  have hread := decode_encode s
  cases hcut : isCutMark (encode s) with
  | false => rfl
  | true =>
      rcases Bool.or_eq_true_iff.mp hcut with h | h
      · rw [eq_of_beq h] at hread
        cases hread
      · rw [eq_of_beq h] at hread
        cases hread

/-- A file in UTF-8 has the text that was encoded in it, without a mark at its start. -/
theorem fileText_encode (s : List Char) :
    fileText (encode s) = String.ofList (unifyLineEnds (dropMarkChar s)) := by
  rw [fileText, decodeFile, isCutMark_encode, dropMark_encode, decode_encode]
  rfl

/-! ## One text, two sources -/

/-- The folder holds the text in UTF-8 under a name. -/
structure Folder.Holds (d : Folder) (fileName : String) (s : List Char) : Prop where
  named : '\x00' ∉ fileName.toList
  bytes : d.readBytes (.ofString fileName) = .ok (encode s)

/-- The response brings the text in UTF-8. Either it names no character set, or it has been
decoded as UTF-8, a mark at its start kept as a character. -/
structure Response.Brings (r : Response) (s : List Char) : Prop where
  status : r.status < Response.failureStatus
  content : r.content = encode s
  text : r.namesCharset = true → r.text = String.ofList s

/-- Whether a mark at the start is kept, as it is if the response has been decoded already. -/
def Response.KeepsMark (r : Response) (s : List Char) : Prop :=
  r.namesCharset = true ∧ s.head? = some markChar

theorem Folder.Holds.fetch_eq {d : Folder} {fileName : String} {s : List Char}
    (h : d.Holds fileName s) :
    d.fetch fileName = .ok (String.ofList (unifyLineEnds (dropMarkChar s))) := by
  simp [Folder.fetch, h.named, h.bytes, fileText_encode]

theorem Response.Brings.receive_eq {r : Response} {s : List Char} (h : r.Brings s)
    (fileName : String) :
    WebSource.receive fileName (.ok r) =
      .ok (String.ofList (if r.namesCharset then s else dropMarkChar s)) := by
  rw [WebSource.receive, if_neg (Int.not_le.mpr h.status), Response.body]
  cases hcharset : r.namesCharset with
  | true => simp [h.text hcharset]
  | false => simp [h.content, dropMark_encode, decodeLossy_encode]

/-! ## Two texts, one outcome -/

/-- Outcomes that a reader cannot tell apart: the same name, entries and number of records left
out, or errors of one kind. -/
def Alike : Except ReadError Parsed → Except ReadError Parsed → Prop
  | .ok a, .ok b => a.name = b.name ∧ a.entries = b.entries ∧ a.dropped = b.dropped
  | .error e, .error f => e.kind = f.kind
  | _, _ => False

theorem Alike.refl (outcome : Except ReadError Parsed) : Alike outcome outcome := by
  cases outcome with
  | ok parsed => exact ⟨rfl, rfl, rfl⟩
  | error e => exact rfl

/-- A mark that is kept hides the binding. -/
theorem parse_of_mark [Literal.Reader] {s : List Char} (h : s.head? = some markChar)
    (partition? : Option Partition) :
    parse (String.ofList s) partition? = .error .noBinding := by
  obtain ⟨rest, rfl⟩ := List.head?_eq_some_iff.mp h
  have hsplit : splitBinding? (markChar :: rest) = none := by
    rw [splitBinding?, stripLeft_cons_of_not_blank (by decide)]
    rfl
  rw [parse_eq_parseAsItStands, String.toList_ofList, parseAsItStands, hsplit]

theorem parse_unifyLineEnds [Literal.Reader] (s : List Char) (partition? : Option Partition) :
    parse (String.ofList (unifyLineEnds s)) partition? = parseAsItStands s partition? := by
  rw [parse, String.toList_ofList, unifyLineEnds_unifyLineEnds, ← String.toList_ofList (l := s),
    ← parse_eq_parseAsItStands]
  rfl

/-- What is read of a file in UTF-8 from the folder and from the server: the text that was encoded
is read as it stands, and alike unless a mark that the response keeps hides what the folder's file
binds. -/
structure ReadAlike [Literal.Reader] (s : List Char) (r : Response) (held brought : String)
    (partition? : Option Partition) : Prop where
  held_eq : parse held partition? = parseAsItStands (dropMarkChar s) partition?
  brought_eq : ¬r.KeepsMark s →
    parse brought partition? = parseAsItStands (dropMarkChar s) partition?
  hidden : r.KeepsMark s → parse brought partition? = .error .noBinding
  alike_iff : Alike (parse held partition?) (parse brought partition?) ↔
    (r.KeepsMark s → ∃ e, parse held partition? = .error e ∧ e.isFormat = true)

/-- For every text in UTF-8, with or without a byte order mark and however its lines end, the
folder and the server give texts, and these are read alike exactly if the response does not keep a
mark, or the file is not a partition file anyway. -/
theorem fetch_read_alike [Literal.Reader] {d : Folder} {fileName : String} {s : List Char}
    {r : Response} (hd : d.Holds fileName s) (hr : r.Brings s) (partition? : Option Partition) :
    ∃ held brought, d.fetch fileName = .ok held ∧
      WebSource.receive fileName (.ok r) = .ok brought ∧
      ReadAlike s r held brought partition? := by
  refine ⟨_, _, hd.fetch_eq, hr.receive_eq fileName, ?_⟩
  have hheld := parse_unifyLineEnds (dropMarkChar s) partition?
  have hbrought : ¬r.KeepsMark s →
      parse (String.ofList (if r.namesCharset then s else dropMarkChar s)) partition? =
        parseAsItStands (dropMarkChar s) partition? := by
    intro hnot
    rw [parse_eq_parseAsItStands, String.toList_ofList]
    cases hcharset : r.namesCharset with
    | false => rfl
    | true =>
        have hmark : s.head? ≠ some markChar := fun hmark => hnot ⟨hcharset, hmark⟩
        simp [dropMarkChar, hmark]
  have hhidden : r.KeepsMark s →
      parse (String.ofList (if r.namesCharset then s else dropMarkChar s)) partition? =
        .error .noBinding := by
    rintro ⟨hcharset, hmark⟩
    rw [if_pos hcharset]
    exact parse_of_mark hmark partition?
  refine ⟨hheld, hbrought, hhidden, ?_⟩
  by_cases hkeeps : r.KeepsMark s
  · rw [hhidden hkeeps]
    cases parse (String.ofList (unifyLineEnds (dropMarkChar s))) partition? with
    | ok parsed => simp [Alike, hkeeps]
    | error e => simp [Alike, hkeeps, kind_eq_of_isFormat_iff]
  · rw [hbrought hkeeps, hheld]
    simp [hkeeps, Alike.refl]

/-- A partition file that begins with a mark and ends its lines in two ways. -/
def markedText : List Char :=
  markChar :: "var searchData=\r\n[['apple',['apple',['apple.html','','']]]\r];".toList

/-- A folder with the marked file. -/
def markedFolder : Folder := ⟨"search", [(["all_a.js"], encode markedText)], []⟩

/-- A response that brings the marked file. -/
def markedResponse (contentType : String) : Response :=
  ⟨200, some "OK", [("Content-Type", contentType)], encode markedText, String.ofList markedText⟩

theorem markedFolder_holds : markedFolder.Holds "all_a.js" markedText :=
  ⟨by decide, rfl⟩

theorem markedResponse_brings (contentType : String) :
    (markedResponse contentType).Brings markedText :=
  ⟨show (200 : Int) < 400 by decide, rfl, fun _ => rfl⟩

section

attribute [local instance] Literal.Reader.plain

theorem fetch_read_alike_marked :
    markedFolder.Holds "all_a.js" markedText ∧
      (markedResponse "text/javascript").Brings markedText ∧
      ∃ held brought, markedFolder.fetch "all_a.js" = .ok held ∧
        WebSource.receive "all_a.js" (.ok (markedResponse "text/javascript")) = .ok brought ∧
        ReadAlike markedText (markedResponse "text/javascript") held brought none :=
  ⟨markedFolder_holds, markedResponse_brings _,
    fetch_read_alike markedFolder_holds (markedResponse_brings _) none⟩

/-- The folder's file is read, but not that of a response which names UTF-8 as its character
set. -/
theorem kept_mark_not_alike :
    markedFolder.Holds "all_a.js" markedText ∧
      (markedResponse "text/javascript; charset=utf-8").Brings markedText ∧
      ∃ held brought, markedFolder.fetch "all_a.js" = .ok held ∧
        WebSource.receive "all_a.js"
          (.ok (markedResponse "text/javascript; charset=utf-8")) = .ok brought ∧
        ¬Alike (parse held none) (parse brought none) := by
  refine ⟨markedFolder_holds, markedResponse_brings _, _, _, markedFolder_holds.fetch_eq,
    (markedResponse_brings _).receive_eq "all_a.js", ?_⟩
  have hkept : (markedResponse "text/javascript; charset=utf-8").namesCharset = true := by
    decide +kernel
  have hread : (parse (String.ofList (unifyLineEnds (dropMarkChar markedText))) none).isOk =
      true := by decide +kernel
  have hhidden : parse (String.ofList markedText) none = .error .noBinding := parse_of_mark rfl none
  rw [if_pos hkept, hhidden]
  cases hparse : parse (String.ofList (unifyLineEnds (dropMarkChar markedText))) none with
  | ok parsed => exact id
  | error e =>
      rw [hparse] at hread
      cases hread

end

end DocIndex
