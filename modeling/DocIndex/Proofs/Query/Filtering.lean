import DocIndex.Query

/-! # Filtering by key

In a list in key order the entries that match a query stand together, and bisection finds the
first of them. So the entries found are all those that match.
-/

namespace DocIndex.Query

/-! ## Bisection -/

section Bisection

variable {entries : Array Entry} {key : String} {low high middle : Nat}

/-- The place of `key` in a sorted array is between `low` and `high`. -/
structure Brackets (entries : Array Entry) (key : String) (low high : Nat) : Prop where
  le : low ≤ high
  below : ∀ i (hi : i < entries.size), i < low → entries[i].key < key
  above : ∀ i (hi : i < entries.size), high ≤ i → key ≤ entries[i].key

/-- Whether no entry of the array stands before one with a smaller key. -/
def Ordered (entries : Array Entry) : Prop :=
  ∀ i j (hij : i ≤ j) (hj : j < entries.size), entries[i].key ≤ entries[j].key

theorem Brackets.right (hsorted : Ordered entries) (h : Brackets entries key low high)
    (hsize : high ≤ entries.size) (hmiddle : middle < high)
    (hlt : entries[middle].key < key) : Brackets entries key (middle + 1) high := by
  refine ⟨by omega, fun i hi hlow => ?_, h.above⟩
  have hle := hsorted i middle (by omega) (by omega)
  rw [← String.not_le] at hlt ⊢
  exact fun hkey => hlt (String.le_trans hkey hle)

theorem Brackets.left (hsorted : Ordered entries) (h : Brackets entries key low high)
    (hsize : high ≤ entries.size) (hlow : low ≤ middle) (hmiddle : middle < high)
    (hle : key ≤ entries[middle].key) : Brackets entries key low middle := by
  refine ⟨hlow, h.below, fun i hi hhigh => ?_⟩
  exact String.le_trans hle (hsorted middle i hhigh hi)

/-- Halving ends at the place of the key. -/
theorem Brackets.bisect (hsorted : Ordered entries) (hsize : high ≤ entries.size)
    (h : Brackets entries key low high) :
    Brackets entries key (bisect entries key low high hsize)
      (bisect entries key low high hsize) := by
  induction low, high, hsize using bisect.induct entries key with
  | case1 low high hsize hlt middle hkey ih =>
      rw [Query.bisect, dif_pos hlt, if_pos hkey]
      exact ih (h.right hsorted hsize (by omega) hkey)
  | case2 low high hsize hlt middle hkey ih =>
      rw [Query.bisect, dif_pos hlt, if_neg hkey]
      exact ih (h.left hsorted hsize (by omega) (by omega) (String.not_lt.mp hkey))
  | case3 low high hsize hlt =>
      rw [Query.bisect, dif_neg hlt]
      have heq : low = high := by
        have hle := h.le
        omega
      exact heq ▸ h

end Bisection

theorem brackets_lowerBound {entries : List Entry} (key : String)
    (h : entries.Pairwise fun a b => a.key ≤ b.key) :
    Brackets entries.toArray key (lowerBound entries key) (lowerBound entries key) := by
  have hsorted : Ordered entries.toArray := by
    intro i j hij hj
    rcases Nat.lt_or_eq_of_le hij with hlt | rfl
    · exact List.pairwise_iff_getElem.mp h i j (by simp at hj; omega) (by simpa using hj) hlt
    · exact String.le_refl _
  apply Brackets.bisect hsorted
  exact ⟨Nat.zero_le _, fun i _ hi => absurd hi (Nat.not_lt_zero i), fun i hi hhigh => by omega⟩

theorem take_lowerBound {entries : List Entry} {key : String}
    (h : entries.Pairwise fun a b => a.key ≤ b.key) :
    ∀ e ∈ entries.take (lowerBound entries key), e.key < key := by
  intro e he
  obtain ⟨i, hi, rfl⟩ := List.mem_iff_getElem.mp he
  rw [List.length_take] at hi
  rw [List.getElem_take]
  exact (brackets_lowerBound key h).below i (by simp; omega) (by omega)

theorem drop_lowerBound {entries : List Entry} {key : String}
    (h : entries.Pairwise fun a b => a.key ≤ b.key) :
    ∀ e ∈ entries.drop (lowerBound entries key), key ≤ e.key := by
  intro e he
  obtain ⟨i, hi, rfl⟩ := List.mem_iff_getElem.mp he
  rw [List.length_drop] at hi
  rw [List.getElem_drop]
  exact (brackets_lowerBound key h).above _ (by simp; omega) (by omega)

/-! ## Matches -/

theorem matchesKey_iff {start : String} {e : Entry} :
    matchesKey start e = true ↔ start.toList <+: e.key.toList := by
  rw [matchesKey, List.isPrefixOf_iff_prefix]

/-- A text that begins with `start` is not before it. -/
theorem not_lex_of_isPrefix {start s : List Char} (h : start <+: s) :
    ¬List.Lex (· < ·) s start := by
  induction start generalizing s with
  | nil =>
      intro hlex
      cases hlex
  | cons c start ih =>
      obtain ⟨tail, rfl⟩ := h
      intro hlex
      rcases List.cons_lex_cons_iff.mp hlex with hlt | ⟨-, hlex⟩
      · exact Nat.lt_irrefl _ hlt
      · exact ih (List.prefix_append start tail) hlex

/-- Between a text and one that begins with it all texts begin with it. -/
theorem isPrefix_of_not_lex {start s t : List Char} (hs : ¬List.Lex (· < ·) s start)
    (hst : ¬List.Lex (· < ·) t s) (ht : start <+: t) : start <+: s := by
  induction start generalizing s t with
  | nil => exact List.nil_prefix
  | cons c start ih =>
      obtain ⟨tail, rfl⟩ := ht
      cases s with
      | nil => exact absurd .nil hs
      | cons d s =>
          rw [List.cons_append, List.cons_lex_cons_iff, not_or] at hst
          rw [List.cons_lex_cons_iff, not_or] at hs
          have hcd : c = d := Char.le_antisymm (Char.not_lt.mp hs.1) (Char.not_lt.mp hst.1)
          subst hcd
          have hs' : ¬List.Lex (· < ·) s start := fun hlex => hs.2 ⟨rfl, hlex⟩
          have hst' : ¬List.Lex (· < ·) (start ++ tail) s := fun hlex => hst.2 ⟨rfl, hlex⟩
          exact (List.prefix_cons_inj c).mpr (ih hs' hst' (List.prefix_append start tail))

/-- An entry that matches is not before the text that it matches. -/
theorem le_of_matchesKey {start : String} {e : Entry} (h : matchesKey start e = true) :
    start ≤ e.key := not_lex_of_isPrefix (matchesKey_iff.mp h)

/-- Between a text and a key that begins with it all keys begin with it. -/
theorem matchesKey_of_le {start : String} {a b : Entry} (ha : start ≤ a.key)
    (hab : a.key ≤ b.key) (hb : matchesKey start b = true) : matchesKey start a = true :=
  matchesKey_iff.mpr (isPrefix_of_not_lex ha hab (matchesKey_iff.mp hb))

/-- What holds of an item only if it holds of all before it is found by reading on while it
holds. -/
theorem takeWhile_eq_filter {α : Type} {p : α → Bool} {items : List α}
    (h : items.Pairwise fun a b => p b = true → p a = true) :
    items.takeWhile p = items.filter p := by
  induction items with
  | nil => rfl
  | cons a rest ih =>
      by_cases ha : p a = true
      · rw [List.takeWhile_cons_of_pos ha, List.filter_cons_of_pos ha, ih h.tail]
      · rw [List.takeWhile_cons_of_neg ha, List.filter_cons_of_neg ha]
        symm
        rw [List.filter_eq_nil_iff]
        exact fun b hb hpb => ha (List.rel_of_pairwise_cons h hb hpb)

/-- And where it no longer holds it never does again. -/
theorem dropWhile_eq_false {α : Type} {p : α → Bool} {items : List α}
    (h : items.Pairwise fun a b => p b = true → p a = true) :
    ∀ a ∈ items.dropWhile p, p a = false := by
  induction items with
  | nil => simp
  | cons a rest ih =>
      by_cases ha : p a = true
      · rw [List.dropWhile_cons_of_pos ha]
        exact ih h.tail
      · rw [List.dropWhile_cons_of_neg ha]
        intro b hb
        rw [← Bool.not_eq_true]
        rcases List.mem_cons.mp hb with rfl | hb
        · exact ha
        · exact fun hpb => ha (List.rel_of_pairwise_cons h hb hpb)

/-! ## The run of the matches -/

section Matches

variable {entries : List Entry} (start : String)
  (h : entries.Pairwise fun a b => a.key ≤ b.key)

include h

/-- From the lower bound on, an entry that matches has only entries that match before it. -/
theorem drop_lowerBound_pairwise :
    (entries.drop (lowerBound entries start)).Pairwise
      fun a b => matchesKey start b = true → matchesKey start a = true := by
  refine (h.sublist (List.drop_sublist _ _)).imp_of_mem fun {a b} ha _ hab hb => ?_
  exact matchesKey_of_le (drop_lowerBound h a ha) hab hb

theorem matchesKey_take_lowerBound :
    ∀ e ∈ entries.take (lowerBound entries start), matchesKey start e = false := by
  intro e he
  rw [← Bool.not_eq_true]
  exact fun hmatch => String.not_le.mpr (take_lowerBound h e he) (le_of_matchesKey hmatch)

/-- The empty text, which is not searched for, would be found before all entries. -/
theorem filterByKey_eq_takeWhile :
    filterByKey entries start =
      (entries.drop (lowerBound entries start)).takeWhile (matchesKey start) := by
  unfold filterByKey
  split
  · rename_i hempty
    subst hempty
    have hall : ∀ e, matchesKey "" e = true := fun e => matchesKey_iff.mpr List.nil_prefix
    have hbefore : entries.take (lowerBound entries "") = [] := by
      rw [List.eq_nil_iff_forall_not_mem]
      intro e he
      exact absurd (hall e) (by simp [matchesKey_take_lowerBound "" h e he])
    have hdrop : entries.drop (lowerBound entries "") = entries := by
      simpa [hbefore] using List.take_append_drop (lowerBound entries "") entries
    rw [hdrop, takeWhile_eq_filter (List.pairwise_of_forall fun a _ _ => hall a)]
    exact (List.filter_eq_self.mpr fun e _ => hall e).symm
  · rfl

/-- Nothing is lost before the place where the search begins or after the one where it ends. -/
theorem filterByKey_eq_filter : filterByKey entries start = entries.filter (matchesKey start) := by
  have hbefore : (entries.take (lowerBound entries start)).filter (matchesKey start) = [] := by
    simpa using matchesKey_take_lowerBound start h
  rw [filterByKey_eq_takeWhile start h, takeWhile_eq_filter (drop_lowerBound_pairwise start h)]
  conv => rhs; rw [← List.take_append_drop (lowerBound entries start) entries]
  rw [List.filter_append, hbefore, List.nil_append]

/-- The entries found in a list in key order are those whose key begins with `start`. They stand
together: before the place found by bisection all keys are smaller, and after the run of entries
found all are greater and do not begin with `start`. -/
theorem filterByKey_run :
    filterByKey entries start = entries.filter (matchesKey start) ∧
      (∀ e ∈ entries.take (lowerBound entries start),
        e.key < start ∧ ¬start.toList <+: e.key.toList) ∧
      ∃ after, entries.drop (lowerBound entries start) = filterByKey entries start ++ after ∧
        ∀ e ∈ after, start < e.key ∧ ¬start.toList <+: e.key.toList := by
  refine ⟨filterByKey_eq_filter start h, fun e he => ?_, ?_⟩
  · have hmatch := matchesKey_take_lowerBound start h e he
    rw [← Bool.not_eq_true, matchesKey_iff] at hmatch
    exact ⟨take_lowerBound h e he, hmatch⟩
  · refine ⟨(entries.drop (lowerBound entries start)).dropWhile (matchesKey start), ?_, ?_⟩
    · rw [filterByKey_eq_takeWhile start h, List.takeWhile_append_dropWhile]
    · intro e he
      have hmatch := dropWhile_eq_false (drop_lowerBound_pairwise start h) e he
      rw [← Bool.not_eq_true, matchesKey_iff] at hmatch
      have hle := drop_lowerBound h e ((List.dropWhile_sublist _).mem he)
      refine ⟨?_, hmatch⟩
      rw [← String.not_le]
      intro hge
      rw [String.le_antisymm hge hle] at hmatch
      exact hmatch (List.prefix_refl _)

end Matches

/-! ## A list in key order -/

/-- Entries with these labels. -/
def labelled (labels : List String) : List Entry :=
  labels.filterMap fun label =>
    (Entry.ofLabel label [⟨"fruit.html", "", "", none, by decide⟩]).toOption

theorem filterByKey_run_ap :
    (labelled ["acorn", "apple", "apricot", "beech"]).Pairwise (fun a b => a.key ≤ b.key) ∧
      (filterByKey (labelled ["acorn", "apple", "apricot", "beech"]) "ap").map Entry.label =
        ["apple", "apricot"] := by
  have hsorted : (labelled ["acorn", "apple", "apricot", "beech"]).Pairwise
      fun a b => a.key ≤ b.key := by decide
  refine ⟨hsorted, ?_⟩
  rw [(filterByKey_run "ap" hsorted).1]
  decide

end DocIndex.Query
