import DocIndex.Proofs.Record.Reading
import DocIndex.Proofs.Text.Cutting
import Mathlib.Data.List.TakeWhile

/-! # The scopes of older hits

The one text of an older hit is a container label, a name with brackets after its container, or a
signature and the file that holds it. A label that is itself a name within a scope is cut: only the
scope is read as the container.
-/

namespace DocIndex

open Text

/-- Where the hit stands. -/
def Hit.scope (hit : Hit) : Record.Scope :=
  ⟨hit.container.toList, hit.fileLabel.toList, hit.disambiguator.map String.toList⟩

namespace Record

/-! ## Containers -/

/-- The scope that a name stands in: what is before the last mark between scopes. A name without
such a mark stands in none. -/
inductive IsScope (name : List Char) : List Char → Prop
  | outer {scope last : List Char} (hname : name = scope ++ scopeMark ++ last)
      (hlast : ¬scopeMark <:+: ':' :: last) : IsScope name scope
  | none (hname : ¬scopeMark <:+: name) : IsScope name []

theorem isScope_of_splitLast? {name scope last : List Char}
    (h : splitLast? scopeMark name = some (scope, last)) : IsScope name scope :=
  let ⟨hname, hlast⟩ := splitLast?_eq_some_iff.mp h
  .outer hname hlast

theorem takeWhile_bracket_eq_self {text : List Char} (h : '(' ∉ text) :
    text.takeWhile (· ≠ '(') = text :=
  List.takeWhile_eq_self_iff.mpr fun _ hc => decide_eq_true fun heq => h (heq ▸ hc)

/-- The container of a signature is the scope of what stands before its arguments. -/
theorem isScope_containerOf (signature : List Char) :
    IsScope (signature.takeWhile (· ≠ '(')) (containerOf true signature) := by
  unfold containerOf
  cases hcut : splitLast? scopeMark (signature.takeWhile (· ≠ '(')) with
  | none => exact .none (splitLast?_eq_none_iff.mp hcut)
  | some parts => exact isScope_of_splitLast? hcut

/-- The container of a label is the label, or the scope of the label if it stands in one. -/
theorem containerOf_label {label : List Char} (h : '(' ∉ label) :
    (scopeMark <:+: label → IsScope label (containerOf false label)) ∧
      (containerOf false label = label ↔ ¬scopeMark <:+: label) := by
  unfold containerOf
  rw [takeWhile_bracket_eq_self h]
  cases hcut : splitLast? scopeMark label with
  | none =>
      have hnone := splitLast?_eq_none_iff.mp hcut
      exact ⟨fun hmark => absurd hmark hnone, by simp [h, scopeMark, hnone]⟩
  | some parts =>
      obtain ⟨hname, -⟩ := splitLast?_eq_some_iff.mp hcut
      refine ⟨fun _ => isScope_of_splitLast? hcut, iff_of_false (fun heq => ?_) fun hnot => ?_⟩
      · have hlength := congrArg List.length (heq.trans hname)
        simp at hlength
      · exact hnot ⟨parts.1, parts.2, hname.symm⟩

/-- The container of a name with brackets is the one that is written before it. -/
theorem containerOf_member {container name : List Char} (hcontainer : '(' ∉ container)
    (hname : '(' ∉ name) (hcolon : ':' ∉ name) :
    containerOf false (container ++ scopeMark ++ name ++ ['(', ')']) = container := by
  have hplain : '(' ∉ container ++ scopeMark ++ name := by
    simp [hcontainer, hname, scopeMark]
  have hhead : (container ++ scopeMark ++ name ++ ['(', ')']).takeWhile (· ≠ '(') =
      container ++ scopeMark ++ name := by
    rw [List.takeWhile_append_of_pos, List.takeWhile_cons_of_neg (by simp), List.append_nil]
    exact fun c hc => decide_eq_true fun heq => hplain (heq ▸ hc)
  have hlast : ¬scopeMark <:+: ':' :: name := by
    intro hmark
    rcases List.infix_cons_iff.mp hmark with hhere | hlater
    · obtain ⟨rest, hrest⟩ := (List.cons_prefix_cons.mp hhere).2
      exact hcolon (by simp [← hrest])
    · exact hcolon (hlater.subset (by simp [scopeMark]))
  have hcut : splitLast? scopeMark (container ++ scopeMark ++ name) = some (container, name) :=
    splitLast?_eq_some_iff.mpr ⟨rfl, hlast⟩
  rw [containerOf, hhead, hcut]

/-! ## Texts -/

/-- No mark of a signature arises where a container, a name and brackets are put together, unless
the name begins like the end of one. -/
theorem not_signatureMark_member {container name : List Char}
    (hcontainer : ¬signatureMark <:+: container) (hcolon : ':' ∉ name)
    (hspace : name.head? ≠ some '\u00a0') :
    ¬signatureMark <:+: container ++ scopeMark ++ name ++ ['(', ')'] := by
  intro hmark
  rw [List.append_assoc, List.append_assoc] at hmark
  rcases pair_isInfix_append hmark with hc | hrest | ⟨-, hhead⟩
  · exact hcontainer hc
  · rcases pair_isInfix_append hrest with hs | hrest | ⟨-, hhead⟩
    · exact absurd hs (by decide)
    · rcases pair_isInfix_append hrest with hn | hb | ⟨hlast, -⟩
      · exact hcolon (hn.subset (by simp))
      · exact absurd hb (by decide)
      · exact hcolon (List.mem_of_getLast? hlast)
    · cases name with
      | nil => simp at hhead
      | cons c name => exact hspace hhead
  · simp [scopeMark] at hhead

/-- What is read of the text of an older hit in each of its layouts. -/
structure Understood (text : List Char) (scope : Scope) : Prop where
  /-- A label is the container exactly if it stands in no scope; else its scope is. -/
  label : '(' ∉ text → ¬signatureMark <:+: text →
    scope.fileLabel = [] ∧ scope.disambiguator = none ∧
      (scope.container = text ↔ ¬scopeMark <:+: text) ∧
      (scopeMark <:+: text → IsScope text scope.container)
  /-- A name with brackets has the container before it, unless it begins with the space that ends
  the mark of a signature. -/
  member : ∀ container name, text = container ++ scopeMark ++ name ++ ['(', ')'] →
    '(' ∉ container → ¬signatureMark <:+: container → '(' ∉ name → ':' ∉ name →
    name.head? ≠ some '\u00a0' → scope = ⟨container, [], none⟩
  /-- A signature tells the hit from its siblings, and its file is what stands after the last
  mark. -/
  signature : ∀ signature file, text = signature ++ signatureMark ++ file → signature ≠ [] →
    ¬signatureMark <:+: file → scope.disambiguator = some signature ∧ scope.fileLabel = file ∧
      IsScope (signature.takeWhile (· ≠ '(')) scope.container

theorem ofText_of_unsigned {text : List Char} (h : ¬signatureMark <:+: text) :
    Scope.ofText text = ⟨containerOf false text, [], none⟩ := by
  have hcut : splitLast? signatureMark text = none := splitLast?_eq_none_iff.mpr h
  rw [Scope.ofText, hcut]

theorem ofText_signature {signature file : List Char} (hsignature : signature ≠ [])
    (hfile : ¬signatureMark <:+: file) :
    Scope.ofText (signature ++ signatureMark ++ file) =
      ⟨containerOf true signature, file, some signature⟩ := by
  have hlast : ¬signatureMark <:+: '\u00a0' :: file := by
    intro hmark
    rcases List.infix_cons_iff.mp hmark with hhere | hlater
    · exact absurd (List.cons_prefix_cons.mp hhere).1 (by decide)
    · exact hfile hlater
  have hcut : splitLast? signatureMark (signature ++ signatureMark ++ file) =
      some (signature, file) := splitLast?_eq_some_iff.mpr ⟨rfl, hlast⟩
  rw [Scope.ofText, hcut]
  simp [nonempty?, hsignature]

theorem understood_ofText (text : List Char) : Understood text (Scope.ofText text) where
  label hbracket hmark := by
    rw [ofText_of_unsigned hmark]
    exact ⟨rfl, rfl, (containerOf_label hbracket).2, (containerOf_label hbracket).1⟩
  member container name htext hcontainer hmark hname hcolon hspace := by
    rw [htext, ofText_of_unsigned (not_signatureMark_member hmark hcolon hspace),
      containerOf_member hcontainer hname hcolon]
  signature signature file htext hne hfile := by
    rw [htext, ofText_signature hne hfile]
    exact ⟨rfl, rfl, isScope_containerOf signature⟩

/-! ## Hits -/

theorem scope_of_hitAt {anchor : String} (h : anchor ≠ "") (scope : Scope) :
    ∃ hit, hitAt anchor scope = .ok hit ∧ hit.anchor = anchor ∧ hit.scope = scope := by
  have hlabel : (scope.disambiguator.map String.ofList).map String.toList =
      scope.disambiguator := by simp [Function.comp_def]
  refine ⟨⟨anchor, String.ofList scope.container, String.ofList scope.fileLabel,
    scope.disambiguator.map String.ofList, h⟩, ?_, rfl, ?_⟩
  · simp [hitAt, Hit.make, h, Except.mapError]
  · simp [Hit.scope, hlabel]

section Older

variable {raw a flag c : Literal} {anchor text : String}

theorem readHit_older (hitems : raw.items? = some [a, flag, c]) (hflag : flag.isInt = true)
    (hanchor : readString .anchor a = .ok anchor) (hne : anchor ≠ "")
    (htext : readString .scope c = .ok text) :
    ∃ hit, readHit raw = .ok hit ∧ hit.anchor = anchor ∧
      hit.scope = Scope.ofText text.toList := by
  obtain ⟨hit, hread, hfound⟩ := scope_of_hitAt hne (Scope.ofText text.toList)
  refine ⟨hit, ?_, hfound⟩
  rw [readHit, hitems]
  dsimp only
  rw [hanchor]
  simp only [bind, Except.bind, hflag, if_true, htext, hread]

/-- An older hit is read, at its anchor and in the scope that its text describes. -/
theorem readHit_understood (hitems : raw.items? = some [a, flag, c]) (hflag : flag.isInt = true)
    (hanchor : readString .anchor a = .ok anchor) (hne : anchor ≠ "")
    (htext : readString .scope c = .ok text) :
    ∃ hit, readHit raw = .ok hit ∧ hit.anchor = anchor ∧ Understood text.toList hit.scope := by
  obtain ⟨hit, hread, hat, hscope⟩ := readHit_older hitems hflag hanchor hne htext
  exact ⟨hit, hread, hat, hscope ▸ understood_ofText text.toList⟩

end Older

/-- An older hit with this text. -/
def olderHit (text : String) : Literal :=
  .list [(Nested.ofString "shape.html#a1").literal, .int 1, (Nested.ofString text).literal]

theorem items?_olderHit (text : String) : (olderHit text).items? =
    some [(Nested.ofString "shape.html#a1").literal, .int 1, (Nested.ofString text).literal] := rfl

theorem readHit_understood_member :
    "ns::Shape::area()".toList = "ns::Shape".toList ++ scopeMark ++ "area".toList ++ ['(', ')'] ∧
      ∃ hit, readHit (olderHit "ns::Shape::area()") = .ok hit ∧ hit.anchor = "shape.html#a1" ∧
        Understood "ns::Shape::area()".toList hit.scope := by
  have hanchor := readString_ofString .anchor "shape.html#a1"
  have htext := readString_ofString .scope "ns::Shape::area()"
  exact ⟨by decide, readHit_understood (items?_olderHit _) rfl hanchor (by decide) htext⟩

/-- A label in a scope is a label, but what is read as the container is its scope alone. -/
theorem scoped_label_cut :
    '(' ∉ "ns::Shape".toList ∧ ¬signatureMark <:+: "ns::Shape".toList ∧
      ∃ hit, readHit (olderHit "ns::Shape") = .ok hit ∧
        hit.scope = ⟨"ns".toList, [], none⟩ := by
  have hanchor := readString_ofString .anchor "shape.html#a1"
  have htext := readString_ofString .scope "ns::Shape"
  obtain ⟨hit, hread, -, hscope⟩ :=
    readHit_older (items?_olderHit _) rfl hanchor (by decide) htext
  refine ⟨by decide, by decide +kernel, hit, hread, ?_⟩
  rw [hscope]
  decide +kernel

end Record

end DocIndex
