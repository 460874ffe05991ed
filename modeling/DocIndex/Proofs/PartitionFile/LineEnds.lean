import DocIndex.Proofs.PartitionFile.Binding
import DocIndex.Proofs.Text.LineEnds

/-! # Files read as they stand

The reader makes all line ends alike before it looks for the binding. It would find the same name
and the same value in the text as it stands: only within the value do line ends have to be made
alike, where literals are read that know single line feeds only.
-/

namespace DocIndex.PartitionFile

open Text

/-! ## The keyword -/

theorem not_mem_keywords {word : List Char} (h : word ∈ keywords) : '\r' ∉ word := by
  simp only [keywords, List.mem_cons, List.not_mem_nil, or_false] at h
  rcases h with rfl | rfl | rfl <;> simp

/-- A word that ends no line begins a text exactly if it begins the unified text. -/
theorem isPrefixOf_unifyLineEnds {word : List Char} (hr : '\r' ∉ word) (hn : '\n' ∉ word)
    (s : List Char) : word.isPrefixOf (unifyLineEnds s) = word.isPrefixOf s := by
  induction word generalizing s with
  | nil => simp
  | cons c word ih =>
      obtain ⟨hrc, hrword⟩ := not_or.mp (mt List.mem_cons.mpr hr)
      obtain ⟨hnc, hnword⟩ := not_or.mp (mt List.mem_cons.mpr hn)
      have hreturn : (c == '\r') = false := beq_false_of_ne (Ne.symm hrc)
      have hline : (c == '\n') = false := beq_false_of_ne (Ne.symm hnc)
      fun_cases unifyLineEnds s with
      | case1 => rfl
      | case2 rest => simp [List.isPrefixOf, hreturn, hline]
      | case3 rest _ => simp [List.isPrefixOf, hreturn, hline]
      | case4 d rest _ hd => simp [List.isPrefixOf, ih hrword hnword]

/-- What follows a keyword must begin with white space, which is skipped. -/
theorem dropKeyword?_eq (s : List Char) :
    dropKeyword? s = (keywords.find? (·.isPrefixOf s)).bind fun word =>
      if (s.drop word.length).head?.any isBlank then some (stripLeft (s.drop word.length))
      else none := by
  unfold dropKeyword?
  congr 1
  funext word
  cases s.drop word.length with
  | nil => rfl
  | cons c rest => cases hc : isBlank c <;> simp [hc, stripLeft]

theorem drop_unifyLineEnds {word s : List Char} (hr : '\r' ∉ word) (h : word.isPrefixOf s = true) :
    (unifyLineEnds s).drop word.length = unifyLineEnds (s.drop word.length) := by
  obtain ⟨rest, rfl⟩ := List.isPrefixOf_iff_prefix.mp h
  rw [unifyLineEnds_append hr, List.drop_left, List.drop_left]

theorem dropKeyword?_unifyLineEnds (s : List Char) :
    dropKeyword? (unifyLineEnds s) = (dropKeyword? s).map unifyLineEnds := by
  have hfind : keywords.find? (·.isPrefixOf (unifyLineEnds s)) =
      keywords.find? (·.isPrefixOf s) := by
    simp (disch := decide) only [keywords, List.find?_cons, List.find?_nil,
      isPrefixOf_unifyLineEnds]
  rw [dropKeyword?_eq, dropKeyword?_eq, hfind]
  cases hword : keywords.find? (·.isPrefixOf s) with
  | none => rfl
  | some word =>
      have hr := not_mem_keywords (List.mem_of_find?_eq_some hword)
      have hbegins : word.isPrefixOf s = true := by simpa using List.find?_some hword
      rw [Option.bind_some, Option.bind_some, drop_unifyLineEnds hr hbegins,
        head?_unifyLineEnds, stripLeft_unifyLineEnds]
      cases (s.drop word.length).head? with
      | none => rfl
      | some c => cases hc : isBlank c <;> simp [isBlank_unified, hc]

/-! ## The name -/

theorem takeName?_unifyLineEnds (s : List Char) :
    takeName? (unifyLineEnds s) = (takeName? s).map (Prod.map id unifyLineEnds) := by
  have hreturn : continuesName '\r' = continuesName '\n' := by decide
  have hline : continuesName '\n' = false := by decide
  fun_cases unifyLineEnds s with
  | case1 => rfl
  | case2 rest => rfl
  | case3 rest _ => rfl
  | case4 c rest _ hc =>
      cases hbegins : beginsName c with
      | false => simp [takeName?, hbegins]
      | true =>
          simp [takeName?, hbegins, dropWhile_unifyLineEnds hreturn,
            takeWhile_unifyLineEnds (hreturn.trans hline) hline]

/-! ## The binding -/

/-- What stands after the equals sign that a text begins with. -/
theorem splitBinding?_eq (s : List Char) :
    splitBinding? s = (dropKeyword? (stripLeft s)).bind fun s =>
      (takeName? s).bind fun (name, rest) =>
        if (stripLeft rest).head? = some '=' then some (name, (stripLeft rest).tail) else none := by
  unfold splitBinding?
  cases dropKeyword? (stripLeft s) with
  | none => rfl
  | some s =>
      cases htaken : takeName? s with
      | none => simp [htaken]
      | some taken =>
          obtain ⟨name, rest⟩ := taken
          simp only [htaken, Option.bind_eq_bind, Option.bind_some]
          split
          · rename_i body hbody
            simp [hbody]
          · rename_i hnot
            cases hrest : stripLeft rest with
            | nil => simp
            | cons c body =>
                have hc : c ≠ '=' := fun hc => hnot body (by rw [hrest, hc])
                simp [hc]

/-- The name and the value are where they are in the text as it stands. -/
theorem splitBinding?_unifyLineEnds (s : List Char) :
    splitBinding? (unifyLineEnds s) = (splitBinding? s).map (Prod.map id unifyLineEnds) := by
  rw [splitBinding?_eq, splitBinding?_eq, stripLeft_unifyLineEnds, dropKeyword?_unifyLineEnds]
  cases dropKeyword? (stripLeft s) with
  | none => rfl
  | some s =>
      rw [Option.map_some, Option.bind_some, Option.bind_some, takeName?_unifyLineEnds]
      cases takeName? s with
      | none => rfl
      | some taken =>
          obtain ⟨name, rest⟩ := taken
          simp only [Option.map_some, Option.bind_some, Prod.map, id, stripLeft_unifyLineEnds]
          fun_cases unifyLineEnds (stripLeft rest) with
          | case1 => rfl
          | case2 body => rfl
          | case3 body _ => rfl
          | case4 c body _ hc => by_cases hequals : c = '=' <;> simp [hequals]

theorem trimBody_unifyLineEnds (s : List Char) :
    trimBody (unifyLineEnds s) = unifyLineEnds (trimBody s) := by
  have hlast : ((strip s).getLast?.map unified = some ';') ↔ (strip s).getLast? = some ';' := by
    cases (strip s).getLast? with
    | none => simp
    | some c => by_cases hc : c = '\r' <;> simp [unified, hc]
  rw [trimBody, trimBody, strip_unifyLineEnds, getLast?_unifyLineEnds]
  by_cases hend : (strip s).getLast? = some ';'
  · obtain ⟨body, hbody⟩ := List.getLast?_eq_some_iff.mp hend
    rw [if_pos (hlast.mpr hend), if_pos hend, hbody,
      unifyLineEnds_concat (by decide) (by decide), List.dropLast_concat, List.dropLast_concat,
      stripRight_unifyLineEnds]
  · rw [if_neg (mt hlast.mp hend), if_neg hend]

/-! ## The file -/

variable [Literal.Reader]

/-- The items of the array that a value's text writes. -/
def readArray (s : List Char) : Except ReadError (List Literal) :=
  match Literal.read s with
  | .ok (.list items) => .ok items
  | .ok v => .error (.notArray v.typeName)
  | .error fault =>
    .error ((ReadError.ofValue? fault).getD (.unreadableArray (Literal.Reader.complaint s)))

/-- A file read as it stands: the binding is sought in the text itself, and line ends are made
alike in the text of the value alone. -/
def parseAsItStands (s : List Char) (partition? : Option Partition) : Except ReadError Parsed :=
  match splitBinding? s with
  | none => .error .noBinding
  | some (name, body) => do
    let records ← readArray (unifyLineEnds (trimBody body))
    let entries ← readRecords records
    return collect (String.ofList name) partition? records.length entries

theorem readBinding_eq (s : List Char) :
    readBinding s = match splitBinding? s with
      | none => .error .noBinding
      | some (name, body) => (readArray (trimBody body)).map (String.ofList name, ·) := by
  unfold readBinding readArray
  cases splitBinding? s with
  | none => rfl
  | some split =>
      dsimp only
      split <;> simp_all [Except.map]

/-- It makes no difference that all line ends are made alike before the binding is sought. -/
theorem parse_eq_parseAsItStands (text : String) (partition? : Option Partition) :
    parse text partition? = parseAsItStands text.toList partition? := by
  rw [parse, parseAsItStands, readBinding_eq, splitBinding?_unifyLineEnds]
  cases splitBinding? text.toList with
  | none => rfl
  | some split =>
      simp only [Option.map_some, Prod.map, id, trimBody_unifyLineEnds]
      cases readArray (unifyLineEnds (trimBody split.2)) <;> rfl

end DocIndex.PartitionFile
