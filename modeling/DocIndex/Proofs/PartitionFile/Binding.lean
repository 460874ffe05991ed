import DocIndex.Proofs.PartitionFile.Rows
import DocIndex.Proofs.Text.Stripping

/-! # The binding of a written file

The name and the array that are written are the name and the array that are read.
-/

namespace DocIndex.PartitionFile

open Text

/-- Whether a file may bind the name: a letter of ASCII, an underscore or a dollar sign, and then
word characters and dollar signs. -/
def IsBindingName (name : String) : Prop :=
  ∃ c rest, name.toList = c :: rest ∧ beginsName c = true ∧ rest.all continuesName = true

instance (name : String) : Decidable (IsBindingName name) :=
  match h : name.toList with
  | [] => isFalse (by rintro ⟨c, rest, hname, -⟩; simp [h] at hname)
  | c :: rest =>
    decidable_of_iff (beginsName c = true ∧ rest.all continuesName = true) (by
      constructor
      · exact fun hs => ⟨c, rest, h, hs⟩
      · rintro ⟨c', rest', hname, hs⟩
        rw [h] at hname
        obtain ⟨rfl, rfl⟩ := List.cons.inj hname
        exact hs)

/-! ## Names -/

theorem ascii_of_isAlpha {c : Char} (h : c.isAlpha = true) :
    0x20 < c.toNat ∧ c.toNat < 0x80 := by
  have hcase : c.isUpper = true ∨ c.isLower = true := Bool.or_eq_true_iff.mp h
  rcases hcase with hupper | hlower
  · have hrange : 'A'.toNat ≤ c.toNat ∧ c.toNat ≤ 'Z'.toNat := of_decide_eq_true hupper
    have hlow : 65 ≤ c.toNat := hrange.1
    have hhigh : c.toNat ≤ 90 := hrange.2
    omega
  · obtain ⟨hlow, hhigh⟩ := Bool.and_eq_true_iff.mp hlower
    have hlow' : 97 ≤ c.toNat := of_decide_eq_true hlow
    have hhigh' : c.toNat ≤ 122 := of_decide_eq_true hhigh
    omega

theorem ascii_of_beginsName {c : Char} (h : beginsName c = true) :
    0x20 < c.toNat ∧ c.toNat < 0x80 := by
  simp only [beginsName, Bool.or_eq_true, beq_iff_eq] at h
  rcases h with (h | rfl) | rfl
  · exact ascii_of_isAlpha h
  · decide
  · decide

theorem continuesName_carriageReturn : continuesName '\r' = false := by decide

theorem continuesName_equals : continuesName '=' = false := by decide

/-- A name before a character that cannot go on with it is taken whole. -/
theorem takeName?_append {c d : Char} {rest body : List Char} (hc : beginsName c = true)
    (hrest : rest.all continuesName = true) (hd : continuesName d = false) :
    takeName? (c :: (rest ++ d :: body)) = some (c :: rest, d :: body) := by
  have hall := List.all_eq_true.mp hrest
  have htake : (rest ++ d :: body).takeWhile continuesName = rest := by
    rw [List.takeWhile_append_of_pos hall]
    simp [hd]
  have hdrop : (rest ++ d :: body).dropWhile continuesName = d :: body := by
    rw [List.dropWhile_append_of_pos hall]
    simp [hd]
  simp [takeName?, hc, htake, hdrop]

/-! ## The binding -/

/-- The text of a file: the keyword, the name, the array, and the semicolon after it. -/
theorem toList_dump (entries : List Entry) (name : String) :
    (dump entries name).toList =
      'v' :: 'a' :: 'r' :: ' ' ::
        (name.toList ++ '=' :: '\n' :: (writeArray (Entry.sort entries) ++ [';', '\n'])) := by
  have hkeyword : "var ".toList = ['v', 'a', 'r', ' '] := by simp
  have hopen : "=\n[\n".toList = ['=', '\n', '[', '\n'] := by simp
  have hclose : "\n];\n".toList = ['\n', ']', ';', '\n'] := by simp
  unfold dump
  rw [String.toList_ofList, hkeyword, hopen, hclose]
  unfold writeArray
  generalize [',', '\n'].intercalate ((Entry.sort entries).map writeEntry) = rows
  simp only [List.cons_append, List.nil_append, List.append_assoc]

theorem splitBinding?_var {name : String} (h : IsBindingName name) (body : List Char) :
    splitBinding? ('v' :: 'a' :: 'r' :: ' ' :: (name.toList ++ '=' :: body)) =
      some (name.toList, body) := by
  obtain ⟨c, rest, hname, hc, hrest⟩ := h
  obtain ⟨hlow, hhigh⟩ := ascii_of_beginsName hc
  have hblank := isBlank_of_ascii hlow hhigh
  have hv : isBlank 'v' = false := by decide
  have hspace : isBlank ' ' = true := by decide
  have hequals : isBlank '=' = false := by decide
  have hkeyword : dropKeyword? ('v' :: 'a' :: 'r' :: ' ' :: (c :: (rest ++ '=' :: body))) =
      some (c :: (rest ++ '=' :: body)) := by
    simp [dropKeyword?, keywords, List.isPrefixOf, hspace, stripLeft_cons_of_not_blank hblank]
  rw [hname, splitBinding?, stripLeft_cons_of_not_blank hv, List.cons_append, hkeyword]
  simp [takeName?_append hc hrest continuesName_equals, stripLeft_cons_of_not_blank hequals]

/-- The array is what is left of the value without the semicolon and the line ends around it. -/
theorem trimBody_writeArray (entries : List Entry) :
    trimBody ('\n' :: (writeArray entries ++ [';', '\n'])) = writeArray entries := by
  have hline : isBlank '\n' = true := by decide
  have hopen : isBlank '[' = false := by decide
  have hclose : isBlank ']' = false := by decide
  have hsemicolon : isBlank ';' = false := by decide
  obtain ⟨inside, harray⟩ : ∃ inside, writeArray entries = '[' :: (inside ++ [']']) :=
    ⟨'\n' :: ([',', '\n'].intercalate (entries.map writeEntry) ++ ['\n']), by simp [writeArray]⟩
  have hstrip : strip ('\n' :: (writeArray entries ++ [';', '\n'])) =
      writeArray entries ++ [';'] := by
    rw [strip, stripLeft_cons_of_blank hline, harray, List.cons_append,
      stripLeft_cons_of_not_blank hopen]
    have hend := stripRight_append_of_blank hline ('[' :: (inside ++ [']']) ++ [';'])
    rw [stripRight_append_of_not_blank hsemicolon] at hend
    simpa using hend
  have hlast : (writeArray entries ++ [';']).getLast? = some ';' := by simp
  have hend := stripRight_append_of_not_blank hclose ('[' :: inside)
  rw [trimBody, hstrip, if_pos hlast, List.dropLast_concat, harray]
  exact hend

theorem not_mem_dump {entries : List Entry} {name : String} (h : IsBindingName name) :
    '\r' ∉ (dump entries name).toList := by
  obtain ⟨c, rest, hname, hc, hrest⟩ := h
  have hfirst : '\r' ≠ c := by
    rintro rfl
    exact absurd hc (by decide)
  have hname' : '\r' ∉ rest := by
    intro hmem
    have hword := List.all_eq_true.mp hrest _ hmem
    simp [continuesName_carriageReturn] at hword
  have harray : '\r' ∉ writeArray (Entry.sort entries) := by
    intro hmem
    rcases mem_writeArray hmem with h | h <;> exact absurd h (by decide)
  rw [toList_dump, hname]
  simp [hfirst, hname', harray]

/-- A written file is read as its name and the records of its entries. -/
theorem readBinding_dump [Literal.Reader] (entries : List Entry) {name : String}
    (h : IsBindingName name) :
    readBinding (unifyLineEnds (dump entries name).toList) =
      .ok (name, (Entry.sort entries).map fun e => e.nested.literal) := by
  rw [unifyLineEnds_eq_self (not_mem_dump h), toList_dump, readBinding, splitBinding?_var h]
  simp only [trimBody_writeArray, read_writeArray, String.ofList_toList]

end DocIndex.PartitionFile
