import DocIndex.Proofs.Expression.Nested

/-! # A list laid out in lines

A list may be written with each of its items on a line of its own. The line ends within its
brackets do not count, so it is read as the list.
-/

namespace DocIndex

open Expression

namespace Nested

/-- Items, each after the tokens `before`, and the tokens `close` at the end. -/
def followed (before close : List Token) (items : List Nested) : List Token :=
  items.flatMap (before ++ ·.tokens) ++ close

/-- Items with the tokens `between` every two of them, and the tokens `close` at the end. -/
def spread (between close : List Token) : List Nested → List Token
  | [] => close
  | x :: rest => x.tokens ++ followed between close rest

theorem tokensAfter_eq_followed (items : List Nested) :
    tokensAfter items = followed [.symbol .comma] [.closing .square] items := by
  induction items with
  | nil => rfl
  | cons x rest ih => simp [tokensAfter, ih, followed]

theorem tokensWithin_eq_spread (items : List Nested) :
    tokensWithin items = spread [.symbol .comma] [.closing .square] items := by
  cases items with
  | nil => rfl
  | cons x rest => simp [tokensWithin, spread, tokensAfter_eq_followed]

/-- The tokens of a list after its opening bracket, with each item on a line of its own. -/
def lines (items : List Nested) : List Token :=
  .lineEnd :: spread [.symbol .comma, .lineEnd] [.lineEnd, .closing .square] items

end Nested

namespace Expression

/-! ## Line ends within brackets -/

/-- From the tokens `ts`, which lead from depth `start` to depth `stop`, the tokens `kept` are
kept, whatever follows. -/
def Joins (start stop : Nat) (ts kept : List Token) : Prop :=
  ∀ rest, joinLines start (ts ++ rest) = (joinLines stop rest).map (kept ++ ·)

theorem Joins.append {a b c : Nat} {ts ts' kept kept' : List Token} (h : Joins a b ts kept)
    (h' : Joins b c ts' kept') : Joins a c (ts ++ ts') (kept ++ kept') := by
  intro rest
  rw [List.append_assoc, h, h', Option.map_map]
  simp [Function.comp_def]

theorem joins_text (depth : Nat) (s : Text.CodePoints) : Joins depth depth [.text s] [.text s] := by
  intro rest
  cases depth <;> rfl

theorem joins_comma (depth : Nat) :
    Joins depth depth [.symbol .comma] [.symbol .comma] := by
  intro rest
  cases depth <;> rfl

theorem joins_lineEnd (depth : Nat) : Joins (depth + 1) (depth + 1) [.lineEnd] [] := by
  intro rest
  simp [joinLines]

theorem joins_opening {depth : Nat} (b : Bracket) (h : depth < depthLimit) :
    Joins depth (depth + 1) [.opening b] [.opening b] := by
  intro rest
  simp [joinLines, h]

theorem joins_closing (depth : Nat) (b : Bracket) :
    Joins (depth + 1) depth [.closing b] [.closing b] := by
  intro rest
  rfl

/-- If the tokens between items and at the end are kept in a way, so are the items with them. -/
theorem joins_spread {start stop : Nat} {between between' close close' : List Token}
    (hbetween : Joins start start between between') (hclose : Joins start stop close close')
    {items : List Nested} (hitems : ∀ x ∈ items, Joins start start x.tokens x.tokens) :
    Joins start stop (Nested.spread between close items) (Nested.spread between' close' items) := by
  have hfollowed (rest : List Nested) (hrest : ∀ x ∈ rest, Joins start start x.tokens x.tokens) :
      Joins start stop (Nested.followed between close rest)
        (Nested.followed between' close' rest) := by
    induction rest with
    | nil => exact hclose
    | cons x rest ih =>
        have hx := hrest x (by simp)
        have htail := ih fun y hy => hrest y (by simp [hy])
        simpa [Nested.followed] using hbetween.append (hx.append htail)
  cases items with
  | nil => exact hclose
  | cons x items =>
      exact (hitems x (by simp)).append (hfollowed items fun y hy => hitems y (by simp [hy]))

/-- The tokens of a value are all kept, if its lists are not too deep. -/
theorem joins_tokens (x : Nested) (depth : Nat) (h : depth + x.depth ≤ depthLimit) :
    Joins depth depth x.tokens x.tokens := by
  induction x using Nested.induct generalizing depth with
  | text s => exact joins_text depth s
  | list items ih =>
      rw [Nested.depth] at h
      have hitems : ∀ x ∈ items, Joins (depth + 1) (depth + 1) x.tokens x.tokens := by
        intro x hx
        have hdepth := (Nested.depthWithin_le_iff items _).mp (Nat.le_refl _) x hx
        exact ih x hx (depth + 1) (by omega)
      have hspread := joins_spread (joins_comma (depth + 1)) (joins_closing depth .square) hitems
      rw [Nested.tokens, Nested.tokensWithin_eq_spread]
      exact (joins_opening .square (by omega)).append hspread

/-- A list laid out in lines is joined to its tokens. -/
theorem joinLines_lines (items : List Nested) (h : (Nested.list items).depth ≤ depthLimit) :
    joinLines 0 (.opening .square :: Nested.lines items) = some (Nested.list items).tokens := by
  rw [Nested.depth] at h
  have hitems : ∀ x ∈ items, Joins 1 1 x.tokens x.tokens := by
    intro x hx
    have hdepth := (Nested.depthWithin_le_iff items _).mp (Nat.le_refl _) x hx
    exact joins_tokens x 1 (by omega)
  have hopen : Joins 0 1 [.opening .square, .lineEnd] [.opening .square] :=
    (joins_opening .square (by omega)).append (joins_lineEnd 0)
  have hbetween : Joins 1 1 [.symbol .comma, .lineEnd] [.symbol .comma] :=
    (joins_comma 1).append (joins_lineEnd 0)
  have hclose : Joins 1 0 [.lineEnd, .closing .square] [.closing .square] :=
    (joins_lineEnd 0).append (joins_closing 0 .square)
  have hjoin := hopen.append (joins_spread hbetween hclose hitems) []
  rw [Nested.tokens, Nested.tokensWithin_eq_spread]
  simpa [joinLines, Nested.lines] using hjoin

/-! ## Reading -/

variable [CharacterNames]

/-- Whether all tokens are those of texts and lists. -/
def AllPlain (ts : List Token) : Prop := ∀ f, ∀ t ∈ ts, isWellFormed f t = true

theorem AllPlain.append {ts ts' : List Token} (h : AllPlain ts) (h' : AllPlain ts') :
    AllPlain (ts ++ ts') := by
  intro f t ht
  rcases List.mem_append.mp ht with ht | ht
  · exact h f t ht
  · exact h' f t ht

theorem allPlain_tokensAfter {items : List Nested} (h : ∀ x ∈ items, AllPlain x.tokens) :
    AllPlain (Nested.tokensAfter items) := by
  induction items with
  | nil => simp [AllPlain, Nested.tokensAfter, isWellFormed]
  | cons x items ih =>
      have hcomma : AllPlain [.symbol .comma] := by simp [AllPlain, isWellFormed]
      exact hcomma.append ((h x (by simp)).append (ih fun y hy => h y (by simp [hy])))

theorem allPlain_tokens (x : Nested) : AllPlain x.tokens := by
  induction x using Nested.induct with
  | text s => simp [AllPlain, Nested.tokens, isWellFormed]
  | list items ih =>
      have hopen : AllPlain [.opening .square] := by simp [AllPlain, isWellFormed]
      cases items with
      | nil => simp [AllPlain, Nested.tokens, Nested.tokensWithin, isWellFormed]
      | cons x items =>
          have hafter : AllPlain (Nested.tokensAfter items) :=
            allPlain_tokensAfter fun y hy => ih y (by simp [hy])
          exact hopen.append ((ih x (by simp)).append hafter)

/-- A text with the tokens of a nested value is read as the value, whatever lines it is laid out
in. -/
theorem read?_of_joinLines {s : List Char} {x : Nested}
    (h : (tokens? s).bind (joinLines 0) = some x.tokens) : read? s = some x.expression := by
  obtain ⟨tokens, htokens, hjoin⟩ := Option.bind_eq_some_iff.mp h
  have hplain := allPlain_tokens x fun field => (readNested? s.length field).isSome
  simp only [read?, readNested?, htokens, hjoin, Grammar.read?_tokens, Option.bind_eq_bind,
    Option.bind_some]
  rw [if_pos (List.all_eq_true.mpr hplain)]

end Expression

end DocIndex
