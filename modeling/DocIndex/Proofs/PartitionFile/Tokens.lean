import DocIndex.Proofs.Expression.Layout
import DocIndex.Proofs.PartitionFile.Quotation

/-! # The tokens of a written file

Each text of a file is one token, each hit and each entry the tokens of a nested value. The rows
of a file are cut into the lines of one list.
-/

namespace DocIndex

open Text Expression

variable [CharacterNames]

/-! ## Pieces of a file -/

namespace Expression

/-- The text `s` is cut into the tokens `ts`, whatever follows it. -/
def Separates (s : List Char) (ts : List Token) : Prop :=
  ∀ rest, tokensFrom .between (s ++ rest) = (tokensFrom .between rest).map (ts ++ ·)

/-- The text `s` is cut into the tokens `ts`, whatever follows it but a quotation mark. -/
def Cuts (s : List Char) (ts : List Token) : Prop :=
  ∀ rest, rest.head? ≠ some '\'' →
    tokensFrom .between (s ++ rest) = (tokensFrom .between rest).map (ts ++ ·)

/-- A character that is a token by itself, or none. -/
theorem separates_singleton {c : Char} {ts : List Token}
    (h : Scan.between.step c = some (ts, .between)) : Separates [c] ts :=
  fun rest => tokensFrom_cons h rest

theorem Separates.append {s s' : List Char} {ts ts' : List Token} (h : Separates s ts)
    (h' : Separates s' ts') : Separates (s ++ s') (ts ++ ts') := by
  intro rest
  rw [List.append_assoc, h, h', Option.map_map]
  simp [Function.comp_def]

theorem Separates.cuts {s : List Char} {ts : List Token} (h : Separates s ts) : Cuts s ts :=
  fun rest _ => h rest

theorem Separates.append_cuts {s s' : List Char} {ts ts' : List Token} (h : Separates s ts)
    (h' : Cuts s' ts') : Cuts (s ++ s') (ts ++ ts') := by
  intro rest hrest
  rw [List.append_assoc, h, h' rest hrest, Option.map_map]
  simp [Function.comp_def]

theorem Cuts.append {s s' : List Char} {ts ts' : List Token} (h : Cuts s ts) (h' : Cuts s' ts')
    (hhead : s'.head? ≠ some '\'') : Cuts (s ++ s') (ts ++ ts') := by
  intro rest hrest
  have hnext : (s' ++ rest).head? ≠ some '\'' := by
    cases s' with
    | nil => exact hrest
    | cons c s' => exact hhead
  rw [List.append_assoc, h _ hnext, h' rest hrest, Option.map_map]
  simp [Function.comp_def]

theorem Cuts.tokens? {s : List Char} {ts : List Token} (h : Cuts s ts) :
    Expression.tokens? s = some ts := by
  have hend := h [] (by simp)
  simpa [Expression.tokens?, tokensFrom, Scan.finish] using hend

/-! ## Brackets, commas and line ends -/

theorem separates_open : Separates ['['] [.opening .square] := separates_singleton rfl

theorem separates_close : Separates [']'] [.closing .square] := separates_singleton rfl

theorem separates_comma : Separates [','] [.symbol .comma] := separates_singleton rfl

theorem separates_lineFeed : Separates ['\n'] [.lineEnd] := separates_singleton rfl

theorem separates_space : Separates [' '] [] := separates_singleton rfl

end Expression

namespace PartitionFile

/-! ## Texts -/

theorem quotedToken?_escaped (s : String) :
    quotedToken? plainText ((Markup.escape s.toList).flatMap quoteChar) =
      some (.text (.escaped s)) := by
  have hpoints : plainText.points? ((Markup.escape s.toList).flatMap quoteChar) =
      some ((Markup.escape s.toList).map Char.toNat) := unescapeFrom_quoteChars _
  rw [quotedToken?]
  simp only [plainText] at hpoints ⊢
  rw [hpoints]
  rfl

/-- A closing quotation mark ends the token. -/
theorem tokensFrom_close (s : String) (rest : List Char) :
    tokensFrom (quoting ((Markup.escape s.toList).flatMap quoteChar).reverse false)
      ('\'' :: rest) = (tokensFrom .between rest).map (.text (.escaped s) :: ·) := by
  have hstep : (quoting ((Markup.escape s.toList).flatMap quoteChar).reverse false).step '\'' =
      some ([.text (.escaped s)], .between) := by
    simp [quoting, Scan.step, quotedStep, quotedToken?_escaped]
  rw [tokensFrom_cons hstep]
  rfl

/-- After an opening quotation mark, which a second one does not follow at once. -/
theorem tokensFrom_opened (c : Char) (rest : List Char) :
    tokensFrom (.opened plainText '\'') (quoteChar c ++ rest) =
      tokensFrom (quoting [] false) (quoteChar c ++ rest) := by
  have hopen (d : Char) (tail : List Char) (hd : d ≠ '\'') :
      tokensFrom (.opened plainText '\'') (d :: tail) =
        tokensFrom (quoting [] false) (d :: tail) := by
    simp [tokensFrom, Scan.step, quoting, hd]
  rcases quoteChar_cases c with ⟨-, h⟩ | ⟨-, h⟩ | ⟨-, hq, -, h⟩
  · rw [h]
    exact hopen _ _ (by decide)
  · rw [h]
    exact hopen _ _ (by decide)
  · rw [h]
    exact hopen _ _ hq

/-- Two quotation marks are an empty text, unless a third follows. -/
theorem tokensFrom_openedTwice {rest : List Char} (h : rest.head? ≠ some '\'') :
    tokensFrom (.openedTwice plainText '\'') rest =
      (tokensFrom .between rest).map (.text ⟨[]⟩ :: ·) := by
  have hempty : quotedToken? plainText [] = some (.text ⟨[]⟩) := rfl
  cases rest with
  | nil => rfl
  | cons c rest =>
      have hc : c ≠ '\'' := by simpa using h
      simp only [tokensFrom, Scan.step, if_neg hc, endToken, hempty]
      cases startToken c with
      | none => rfl
      | some next => simp [Function.comp_def]

theorem cuts_writeText (s : String) : Cuts (writeText s) [.text (.escaped s)] := by
  intro rest hrest
  have hopen : Scan.between.step '\'' = some ([], .opened plainText '\'') := rfl
  have hwrite : writeText s ++ rest =
      '\'' :: ((Markup.escape s.toList).flatMap quoteChar ++ '\'' :: rest) := by
    simp [writeText]
  rw [hwrite, tokensFrom_cons_quiet hopen]
  cases hescape : Markup.escape s.toList with
  | nil =>
      have hclose : (Scan.opened plainText '\'').step '\'' =
          some ([], .openedTwice plainText '\'') := rfl
      have hnone : CodePoints.escaped s = ⟨[]⟩ := by
        simp [CodePoints.escaped, hescape, CodePoints.ofChars]
      rw [List.flatMap_nil, List.nil_append, tokensFrom_cons_quiet hclose,
        tokensFrom_openedTwice hrest, hnone]
      rfl
  | cons c tail =>
      have hclose := tokensFrom_close s rest
      rw [List.flatMap_cons, List.append_assoc, tokensFrom_opened, ← List.append_assoc,
        ← List.flatMap_cons, ← hescape, tokensFrom_quoteChars, List.append_nil, hclose]
      rfl

/-! ## Lists -/

omit [CharacterNames] in
theorem intercalate_cons (sep p : List Char) (ps : List (List Char)) :
    sep.intercalate (p :: ps) = p ++ ps.flatMap (sep ++ ·) := by
  induction ps generalizing p with
  | nil => simp [List.intercalate]
  | cons q ps ih =>
      have hq := ih q
      simp only [List.intercalate] at hq ⊢
      simp [hq]

/-- Parts with separators between them are cut into the tokens of the values that they write. -/
theorem cuts_spread {sep close : List Char} {between closing : List Token}
    (hsep : Separates sep between) (hclose : Separates close closing)
    (hsepHead : ∀ rest, (sep ++ rest).head? ≠ some '\'')
    (hcloseHead : close.head? ≠ some '\'')
    (parts : List (List Char × Nested)) (hparts : ∀ p ∈ parts, Cuts p.1 p.2.tokens) :
    Cuts (sep.intercalate (parts.map Prod.fst) ++ close)
      (Nested.spread between closing (parts.map Prod.snd)) := by
  have hhead (rest : List (List Char × Nested)) :
      ((rest.map Prod.fst).flatMap (sep ++ ·) ++ close).head? ≠ some '\'' := by
    cases rest with
    | nil => exact hcloseHead
    | cons p rest =>
        rw [List.map_cons, List.flatMap_cons, List.append_assoc, List.append_assoc]
        exact hsepHead _
  have hfollowed (rest : List (List Char × Nested)) (hrest : ∀ p ∈ rest, Cuts p.1 p.2.tokens) :
      Cuts ((rest.map Prod.fst).flatMap (sep ++ ·) ++ close)
        (Nested.followed between closing (rest.map Prod.snd)) := by
    induction rest with
    | nil => exact hclose.cuts
    | cons p rest ih =>
        have hp := hrest p (by simp)
        have htail := ih fun q hq => hrest q (by simp [hq])
        simpa [Nested.followed] using hsep.append_cuts (hp.append htail (hhead rest))
  cases parts with
  | nil => simpa [List.intercalate, Nested.spread] using hclose.cuts
  | cons p parts =>
      have hp := hparts p (by simp)
      have hrest := hfollowed parts fun q hq => hparts q (by simp [hq])
      rw [List.map_cons, intercalate_cons, List.append_assoc]
      exact hp.append hrest (hhead parts)

/-- Parts between square brackets are cut into the tokens of their list. -/
theorem cuts_list (parts : List (List Char × Nested)) (hparts : ∀ p ∈ parts, Cuts p.1 p.2.tokens) :
    Cuts ('[' :: commaSeparated (parts.map Prod.fst) ++ [']'])
      (Nested.list (parts.map Prod.snd)).tokens := by
  have hspread := cuts_spread separates_comma separates_close (by simp) (by simp) parts hparts
  rw [Nested.tokens, Nested.tokensWithin_eq_spread]
  exact separates_open.append_cuts hspread

/-- Rows between square brackets are cut into the lines of their list. -/
theorem cuts_lines (rows : List (List Char × Nested)) (hrows : ∀ p ∈ rows, Cuts p.1 p.2.tokens) :
    Cuts ('[' :: '\n' :: ([',', '\n'].intercalate (rows.map Prod.fst) ++ ['\n', ']']))
      (.opening .square :: Nested.lines (rows.map Prod.snd)) := by
  have hspread := cuts_spread (separates_comma.append separates_lineFeed)
    (separates_lineFeed.append separates_close) (by simp) (by simp) rows hrows
  exact (separates_open.append separates_lineFeed).append_cuts hspread

end PartitionFile

end DocIndex
