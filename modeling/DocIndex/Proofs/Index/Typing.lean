import DocIndex.Proofs.Index.Cached
import DocIndex.Proofs.Key.Beginning
import DocIndex.Proofs.Partition.Routing
import DocIndex.Proofs.Query.Filtering

/-! # Typing a label

As a label is typed, each beginning of it is a query. The queries that are long enough to be run
find the label's entry, except those that cut a word after a capital sigma.
-/

namespace DocIndex.Index

open Query Text

variable {x : Index} {start rest : String} {hits : List Hit} {e : Entry} {held : List Entry}

/-! ## Beginnings as queries -/

theorem ofLabel_eq_ok_iff {label : String} :
    Entry.ofLabel label hits = .ok e ↔ e.label = label ∧ e.hits = hits := by
  rw [Entry.ofLabel, Entry.make_eq_ok_iff]
  constructor
  · exact And.right
  · rintro ⟨rfl, rfl⟩
    exact ⟨e.normalize_label.symm, rfl, rfl⟩

theorem trimStart_eq_self {raw : String} (h : raw.toList.head? ≠ some ' ') :
    trimStart raw = raw := by
  cases hraw : raw.toList with
  | nil => simp [trimStart, String.toList_eq_nil_iff.mp hraw]
  | cons c s =>
      have hc : c ≠ ' ' := by simpa [hraw] using h
      rw [trimStart, hraw, List.dropWhile_cons_of_neg (by simpa using hc), ← hraw,
        String.ofList_toList]

theorem prepare?_of_head {raw : String} (hne : raw ≠ "") (hspace : raw.toList.head? ≠ some ' ')
    (minLength : Int) :
    prepare? raw minLength =
      if minLength ≤ raw.length then
        some ⟨raw, Key.normalize raw, Partition.ofQuery raw⟩
      else none := by
  have hpos : 0 < raw.length := by
    rw [← String.length_toList]
    exact List.length_pos_iff.mpr (by simpa using hne)
  rw [prepare?, trimStart_eq_self hspace]
  by_cases hlong : minLength ≤ raw.length
  · rw [if_pos hlong, if_neg (by omega)]
  · rw [if_neg hlong, if_pos (by omega)]

/-- A beginning of a label is looked for where the label's entry is. -/
theorem ofKey_of_label (he : e.label = start ++ rest) (hne : start ≠ "") :
    Partition.ofKey e.key = Partition.ofQuery start := by
  rw [← e.normalize_label, he, ← Partition.ofQuery_eq_ofKey, Partition.ofQuery_append hne]

/-! ## The search -/

theorem mem_answerIn (hordered : held.Pairwise fun a b => a.key ≤ b.key) (q : Prepared) :
    e ∈ (q.answerIn held).entries ↔ e ∈ held ∧ q.normalized.toList <+: e.key.toList := by
  have hentries : (q.answerIn held).entries = held.filter (matchesKey q.normalized) :=
    filterByKey_eq_filter q.normalized hordered
  rw [hentries, List.mem_filter, matchesKey_iff]

/-- The key of a label begins with the key of a beginning of the label, and a search for the
beginning finds the label's entry in the loaded partition, unless the beginning is too short or
cuts a word after a capital sigma. -/
theorem search_typed (he : Entry.ofLabel (start ++ rest) hits = .ok e) (hne : start ≠ "")
    (hspace : (start ++ rest).toList.head? ≠ some ' ')
    (hheld : x.store.entries? (Partition.ofKey e.key) = some held)
    (hordered : held.Pairwise fun a b => a.key ≤ b.key) (hmem : e ∈ held) :
    ((Key.normalize start).toList <+: e.key.toList ↔ ¬CutsWord [] start.toList rest.toList) ∧
      ∃ result, (x.search start).1.searchOutcome? (x.search start).2 = some (.ok result) ∧
        result.failed = false ∧
        (e ∈ result.entries ↔
          x.minLength ≤ start.length ∧ ¬CutsWord [] start.toList rest.toList) := by
  obtain ⟨hlabel, -⟩ := ofLabel_eq_ok_iff.mp he
  have hbegins := Key.normalize_isPrefix_iff start rest
  rw [← hlabel, e.normalize_label] at hbegins
  rw [ofKey_of_label hlabel hne] at hheld
  have hhead : start.toList.head? ≠ some ' ' := by
    intro hspaced
    exact hspace (by simp [hspaced])
  have hq := prepare?_of_head hne hhead x.minLength
  refine ⟨hbegins, ?_⟩
  by_cases hlong : x.minLength ≤ start.length
  · rw [if_pos hlong] at hq
    have hcached := (Answers.found hq hheld).searchCached rfl
    refine ⟨_, (search_of_searchCached hcached).1, rfl, ?_⟩
    rw [mem_answerIn hordered, hbegins]
    simp [hmem, hlong]
  · rw [if_neg hlong] at hq
    have hcached := (Answers.short hq).searchCached rfl
    refine ⟨_, (search_of_searchCached hcached).1, rfl, ?_⟩
    simp [SearchResult.entries, SearchResult.ofShort, hlong]

/-! ## A word with a sigma in it -/

/-- An entry whose label has a sigma inside a word. -/
def basis : Entry where
  key := "_ce_b2_ce_b1_cf_83_ce_b7"
  label := "ΒΑΣΗ"
  hits := [⟨"base.html", "", "", none, by decide⟩]
  key_ne := by decide
  hits_ne := by simp
  normalize_label := by decide +kernel

section

attribute [local instance] Literal.Reader.plain

/-- An index that holds the entry. -/
def greek : Index :=
  (empty "all" 1).after [.write (.store Partition.fallback [basis])]

theorem search_typed_basis :
    ∃ result, (greek.search "ΒΑ").1.searchOutcome? (greek.search "ΒΑ").2 = some (.ok result) ∧
      basis ∈ result.entries := by
  have hlabel : Entry.ofLabel ("ΒΑ" ++ "ΣΗ") basis.hits = .ok basis :=
    ofLabel_eq_ok_iff.mpr ⟨by decide, rfl⟩
  have hheld : greek.store.entries? (Partition.ofKey basis.key) = some [basis] := by
    decide +kernel
  obtain ⟨hbegins, result, hresult, -, hfound⟩ := search_typed hlabel (by decide) (by decide) hheld
    (List.pairwise_singleton _ _) (List.mem_singleton_self _)
  have hkey : (Key.normalize "ΒΑ").toList <+: basis.key.toList := by decide +kernel
  exact ⟨result, hresult, hfound.mpr ⟨by decide +kernel, hbegins.mp hkey⟩⟩

/-- The beginning that ends with the sigma has a key with the final form, and does not find the
entry. -/
theorem typed_sigma_missed :
    Entry.ofLabel ("ΒΑΣ" ++ "Η") basis.hits = .ok basis ∧
      greek.store.entries? (Partition.ofQuery "ΒΑΣ") = some [basis] ∧
      ¬(Key.normalize "ΒΑΣ").toList <+: basis.key.toList ∧
      ((greek.search "ΒΑΣ").1.searchOutcome? (greek.search "ΒΑΣ").2).bind Except.toOption =
        some ⟨"ΒΑΣ", "_ce_b2_ce_b1_cf_82", some []⟩ := by
  exact ⟨ofLabel_eq_ok_iff.mpr ⟨by decide, rfl⟩, by decide +kernel⟩

end

end DocIndex.Index
