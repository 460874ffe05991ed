import DocIndex.Partition
import DocIndex.Proofs.Key.Characters
import DocIndex.Proofs.Key.Reading

/-! # The partition of a query

A query is looked for in the partition of its first character. That is the partition of the
query's whole key, and of every key that begins with it. Each partition has a file of its own.
-/

namespace DocIndex.Partition

/-- The partition of a key is that of any beginning of it. -/
theorem ofKey_eq_of_prefix {start key : List Char} (hne : start ≠ []) (h : start <+: key) :
    ofKey (String.ofList start) = ofKey (String.ofList key) := by
  obtain ⟨tail, rfl⟩ := h
  cases start with
  | nil => exact absurd rfl hne
  | cons c start => simp [ofKey]

theorem ofQuery_eq_ofKey (query : String) : ofQuery query = ofKey (Key.normalize query) := by
  obtain ⟨s, rfl⟩ : ∃ s, query = String.ofList s := ⟨query.toList, by simp⟩
  cases s with
  | nil => rfl
  | cons c rest =>
      obtain ⟨tail, htail⟩ := Key.toList_normalize_cons c rest
      have hne : c.toString ≠ "" := by simp
      have hprefix := ofKey_eq_of_prefix (Key.toList_normalize_ne_nil hne)
        (htail ▸ List.prefix_append _ tail)
      simpa [ofQuery] using hprefix

/-- A query stays in its partition as more is added to it. -/
theorem ofQuery_append {start : String} (hne : start ≠ "") (rest : String) :
    ofQuery (start ++ rest) = ofQuery start := by
  have hlist : start.toList ≠ [] := by simpa using hne
  cases hs : start.toList with
  | nil => exact absurd hs hlist
  | cons c s => simp [ofQuery, hs]

/-- All keys that begin with the key of a query are in the partition of the query. -/
theorem ofKey_eq_ofQuery {query key : String} (hne : query ≠ "")
    (h : (Key.normalize query).toList <+: key.toList) : ofKey key = ofQuery query := by
  have hprefix := ofKey_eq_of_prefix (Key.toList_normalize_ne_nil hne) h
  simp only [String.ofList_toList] at hprefix
  rw [ofQuery_eq_ofKey, hprefix]

/-! ## The first character of a key -/

theorem alphabet_isSafe : alphabet.all Key.isSafe = true := by decide

theorem mem_alphabet_ascii : ∀ n < 0x80, Key.isSafe (Char.ofNat n) = true →
    Char.ofNat n ∈ alphabet := by decide +kernel

/-- The characters with partitions of their own are those that stand for themselves in keys. -/
theorem mem_alphabet_iff {c : Char} : c ∈ alphabet ↔ Key.isSafe c = true := by
  refine ⟨List.all_eq_true.mp alphabet_isSafe c, fun hsafe => ?_⟩
  have hascii := mem_alphabet_ascii c.toNat (Key.toNat_lt_of_isSafe hsafe)
  rw [Char.ofNat_toNat] at hascii
  exact hascii hsafe

/-- A character of a key is the token of the partition of the keys that it begins. -/
theorem token_ofFirst {c : Char} (h : c = '_' ∨ Key.isSafe c = true) :
    (ofFirst c).token = c := by
  unfold ofFirst
  rcases h with rfl | hsafe
  · rw [dif_neg (by decide)]
    rfl
  · rw [dif_pos (mem_alphabet_iff.mpr hsafe)]

/-- The key of a query begins with the token of the query's partition. -/
theorem head?_normalize {query : String} (hne : query ≠ "") :
    (Key.normalize query).toList.head? = some (ofQuery query).token := by
  cases hkey : (Key.normalize query).toList with
  | nil => exact absurd hkey (Key.toList_normalize_ne_nil hne)
  | cons c tail =>
      have hc : c ∈ (Key.normalize query).toList := by simp [hkey]
      have hpartition : ofQuery query = ofFirst c := by rw [ofQuery_eq_ofKey, ofKey, hkey]
      rw [hpartition, token_ofFirst (Key.mem_normalize hc), List.head?_cons]

/-- The first character of a query decides in which partition its matches are, though it is the
key of the whole query that their keys begin with. -/
structure RoutedByFirst (query : String) : Prop where
  key : ofQuery query = ofKey (Key.normalize query)
  token : query ≠ "" → (Key.normalize query).toList.head? = some (ofQuery query).token
  /-- Whatever follows the query, the key of the longer text is in the same partition, also where
  a letter of the query is then lowered in another way. -/
  more : query ≠ "" → ∀ rest, ofKey (Key.normalize (query ++ rest)) = ofQuery query
  begun : query ≠ "" → ∀ key : String, (Key.normalize query).toList <+: key.toList →
    ofKey key = ofQuery query

/-- The partition found from the first character alone is that of the key, and of all keys that
begin with it. -/
theorem routedByFirst (query : String) : RoutedByFirst query where
  key := ofQuery_eq_ofKey query
  token hne := head?_normalize hne
  more hne rest := by rw [← ofQuery_eq_ofKey, ofQuery_append hne]
  begun hne _ hbegins := ofKey_eq_ofQuery hne hbegins

/-- The Kelvin sign is lowered into ASCII, a dotted capital I into two characters, and a capital
sigma never into its final form where a text begins. -/
example : (ofQuery "\u212aelvin").token = 'k' ∧ (ofQuery "İstanbul").token = 'i' ∧
    ofQuery "Σ" = ofKey (Key.normalize "ΣΟΦΟΣ") := by decide +kernel

/-! ## Files -/

theorem mem_all (p : Partition) : p ∈ all :=
  List.mem_map.mpr ⟨⟨p.token, p.token_mem⟩, List.mem_attach _ _, rfl⟩

/-- Partitions have files of their own in each section. -/
theorem fileName_injective {p q : Partition} {sectionName : String}
    (h : p.fileName sectionName = q.fileName sectionName) : p = q := by
  have hchars := congrArg String.toList h
  simp only [fileName, String.toList_append] at hchars
  have htoken : p.token = q.token := by simpa using hchars
  cases p
  cases q
  simpa using htoken

end DocIndex.Partition
