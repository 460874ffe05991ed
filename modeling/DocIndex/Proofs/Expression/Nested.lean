import DocIndex.Literal.Reading

/-! # Nested lists of texts are read back

The tokens of a nested list of texts are read back as its expression, whatever may follow an
expression, and its expression has the list as its value.
-/

namespace DocIndex

open Expression

namespace Nested

mutual

def literal : Nested → Literal
  | text s => .text s
  | list items => .list (literals items)

def literals : List Nested → List Literal
  | [] => []
  | x :: rest => literal x :: literals rest

end

mutual

def expression : Nested → Expression
  | text s => .constant (.text s)
  | list items => .list (expressions items)

def expressions : List Nested → List Expression
  | [] => []
  | x :: rest => expression x :: expressions rest

end

/-- Induction on values: a list may assume the statement of its items. -/
@[elab_as_elim]
theorem induct {motive : Nested → Prop} (text : ∀ s, motive (text s))
    (list : ∀ items, (∀ x ∈ items, motive x) → motive (list items)) : ∀ x, motive x
  | .text s => text s
  | .list items => list items fun x hx =>
      have hlt : sizeOf x < sizeOf (Nested.list items) :=
        Nat.lt_of_lt_of_le (List.sizeOf_lt_of_mem hx) (by simp)
      induct text list x
termination_by x => sizeOf x

theorem literals_eq_map (items : List Nested) : literals items = items.map literal := by
  induction items with
  | nil => rfl
  | cons x rest ih => simp [literals, ih]

theorem expressions_eq_map (items : List Nested) :
    expressions items = items.map expression := by
  induction items with
  | nil => rfl
  | cons x rest ih => simp [expressions, ih]

theorem literal_list (items : List Nested) : (list items).literal = .list (items.map literal) := by
  rw [literal, literals_eq_map]

theorem expression_list (items : List Nested) :
    (list items).expression = .list (items.map expression) := by
  rw [expression, expressions_eq_map]

theorem depthWithin_le_iff (items : List Nested) (n : Nat) :
    depthWithin items ≤ n ↔ ∀ x ∈ items, x.depth ≤ n := by
  induction items with
  | nil => simp [depthWithin]
  | cons x rest ih =>
      rw [depthWithin, Nat.max_le, ih]
      simp

/-! ## The value of the expression -/

theorem values_expressions {items : List Nested}
    (h : ∀ x ∈ items, x.expression.value = .ok x.literal) :
    Expression.values (expressions items) = .ok (literals items) := by
  induction items with
  | nil => rfl
  | cons x rest ih =>
      have hx := h x (by simp)
      have hrest := ih fun y hy => h y (by simp [hy])
      rw [expressions, Expression.values, hx, hrest]
      rfl

theorem value_expression (x : Nested) : x.expression.value = .ok x.literal := by
  induction x using induct with
  | text s => rfl
  | list items ih => rw [expression, Expression.value, values_expressions ih]; rfl

/-! ## Lengths of token lists -/

theorem length_tokens_pos (x : Nested) : 0 < x.tokens.length := by
  cases x <;> simp [tokens]

theorem length_tokensAfter (items : List Nested) : items.length < (tokensAfter items).length := by
  induction items with
  | nil => simp [tokensAfter]
  | cons x rest ih =>
      simp only [tokensAfter, List.length_cons, List.length_append]
      omega

theorem length_tokens_le_after {x : Nested} {items : List Nested} (h : x ∈ items) :
    x.tokens.length ≤ (tokensAfter items).length := by
  induction items with
  | nil => simp at h
  | cons y rest ih =>
      simp only [tokensAfter, List.length_cons, List.length_append]
      rcases List.mem_cons.mp h with rfl | h
      · omega
      · have := ih h
        omega

theorem length_tokens_lt {x : Nested} {items : List Nested} (h : x ∈ items) :
    x.tokens.length < (list items).tokens.length := by
  cases items with
  | nil => simp at h
  | cons y rest =>
      simp only [tokens, tokensWithin, List.length_cons, List.length_append]
      rcases List.mem_cons.mp h with rfl | h
      · omega
      · have := length_tokens_le_after h
        omega

theorem length_lt_tokens (items : List Nested) : items.length < (list items).tokens.length := by
  cases items with
  | nil => simp [tokens, tokensWithin]
  | cons x rest =>
      have := length_tokensAfter rest
      have := length_tokens_pos x
      simp only [tokens, tokensWithin, List.length_cons, List.length_append]
      omega

end Nested

namespace Expression.Grammar

/-! ## Where expressions begin and end -/

/-- Whether the tokens begin with a text or an opening bracket. -/
def BeginsPlainly : List Token → Prop
  | .text _ :: _ => True
  | .opening _ :: _ => True
  | _ => False

/-- Whether an expression may end before the tokens: at a comma, a closing bracket or the end. -/
def Ends : List Token → Prop
  | [] => True
  | .symbol .comma :: _ => True
  | .closing _ :: _ => True
  | _ => False

theorem Ends.cases {ts : List Token} (h : Ends ts) :
    ts = [] ∨ (∃ rest, ts = .symbol .comma :: rest) ∨ ∃ b rest, ts = .closing b :: rest := by
  unfold Ends at h
  split at h
  · exact .inl rfl
  · exact .inr (.inl ⟨_, rfl⟩)
  · exact .inr (.inr ⟨_, _, rfl⟩)
  · exact h.elim

theorem BeginsPlainly.cases {ts : List Token} (h : BeginsPlainly ts) :
    (∃ s rest, ts = .text s :: rest) ∨ ∃ b rest, ts = .opening b :: rest := by
  unfold BeginsPlainly at h
  split at h
  · exact .inl ⟨_, _, rfl⟩
  · exact .inr ⟨_, _, rfl⟩
  · exact h.elim

theorem beginsPlainly_tokens (x : Nested) (rest : List Token) :
    BeginsPlainly (x.tokens ++ rest) := by
  cases x <;> trivial

theorem tokensAfter_cons_append (x : Nested) (items : List Nested) (rest : List Token) :
    Nested.tokensAfter (x :: items) ++ rest =
      .symbol .comma :: (x.tokens ++ (Nested.tokensAfter items ++ rest)) := by
  simp [Nested.tokensAfter]

theorem ends_tokensAfter (items : List Nested) (rest : List Token) :
    Ends (Nested.tokensAfter items ++ rest) := by
  cases items <;> trivial

/-- No operator stands where an expression ends. -/
theorem joined_of_ends {join? : List Token → Option (Join × List Token)}
    (operand : Rule Expression) (fuel : Nat) (e : Expression) {ts : List Token}
    (h : join? ts = none) : joined join? operand (fuel + 1) e ts = some (e, ts) := by
  simp [joined, h]

theorem arithmeticJoin?_of_ends {ts : List Token} (h : Ends ts) : arithmeticJoin? ts = none := by
  rcases h.cases with rfl | ⟨rest, rfl⟩ | ⟨b, rest, rfl⟩ <;> rfl

theorem comparisonJoin?_of_ends {ts : List Token} (h : Ends ts) : comparisonJoin? ts = none := by
  rcases h.cases with rfl | ⟨rest, rfl⟩ | ⟨b, rest, rfl⟩ <;> rfl

theorem logicalJoin?_of_ends {ts : List Token} (h : Ends ts) : logicalJoin? ts = none := by
  rcases h.cases with rfl | ⟨rest, rfl⟩ | ⟨b, rest, rfl⟩ <;> rfl

theorem trailers_of_ends (inner : Rules) (fuel : Nat) (e : Expression) {ts : List Token}
    (h : Ends ts) : trailers inner (fuel + 1) e ts = some (e, ts) := by
  rcases h.cases with rfl | ⟨rest, rfl⟩ | ⟨b, rest, rfl⟩ <;> rfl

theorem texts_of_ends (s : Text.CodePoints) {ts : List Token} (h : Ends ts) :
    texts false s ts = some (.constant (.text s), ts) := by
  rcases h.cases with rfl | ⟨rest, rfl⟩ | ⟨b, rest, rfl⟩ <;> rfl

/-- An operand that begins with a text or a bracket and is followed by no operator is a whole
expression. -/
theorem expression_of_atom (inner : Rules) (fuel : Nat) {ts rest : List Token} {e : Expression}
    (hbegin : BeginsPlainly ts) (hatom : atom inner (fuel + 1) ts = some (e, rest))
    (hend : Ends rest) : Grammar.expression inner (fuel + 1) ts = some (e, rest) := by
  have hprimary : primary inner (fuel + 1) ts = some (e, rest) := by
    simp [primary, hatom, trailers_of_ends inner fuel e hend]
  have hfactor : factor (primary inner (fuel + 1)) ts = some (e, rest) := by
    rcases hbegin.cases with ⟨s, tail, rfl⟩ | ⟨b, tail, rfl⟩ <;> simpa [factor] using hprimary
  have harith : arithmetic inner (fuel + 1) ts = some (e, rest) := by
    simp [arithmetic, chain, hfactor, joined_of_ends _ fuel e (arithmeticJoin?_of_ends hend)]
  have hcomparison : chain comparisonJoin? (arithmetic inner (fuel + 1)) (fuel + 1) ts =
      some (e, rest) := by
    simp [chain, harith, joined_of_ends _ fuel e (comparisonJoin?_of_ends hend)]
  have hinversion : inversion (chain comparisonJoin? (arithmetic inner (fuel + 1)) (fuel + 1)) ts =
      some (e, rest) := by
    rcases hbegin.cases with ⟨s, tail, rfl⟩ | ⟨b, tail, rfl⟩ <;> simpa [inversion] using hcomparison
  have hdisjunction : disjunction inner (fuel + 1) ts = some (e, rest) := by
    rw [disjunction, chain, hinversion]
    exact joined_of_ends _ fuel e (logicalJoin?_of_ends hend)
  rcases hbegin.cases with ⟨s, tail, rfl⟩ | ⟨b, tail, rfl⟩ <;>
    rcases hend.cases with rfl | ⟨rest, rfl⟩ | ⟨b, rest, rfl⟩ <;>
      simp [Grammar.expression, hdisjunction]

/-! ## Lists -/

theorem item_of_beginsPlainly (inner : Rules) {ts : List Token} (h : BeginsPlainly ts) :
    item inner ts = inner.expression ts := by
  rcases h.cases with ⟨s, rest, rfl⟩ | ⟨b, rest, rfl⟩ <;> rfl

theorem close?_of_beginsPlainly (b : Bracket) {ts : List Token} (h : BeginsPlainly ts) :
    close? b ts = none := by
  rcases h.cases with ⟨s, rest, rfl⟩ | ⟨b, rest, rfl⟩ <;> rfl

/-- An item before a comma: the series goes on after it. -/
theorem series_next {α : Type} {item : Rule α} {b : Bracket} {ts rest : List Token} {a : α}
    (fuel : Nat) (before : List α) (hclose : close? b ts = none)
    (hitem : item ts = some (a, .symbol .comma :: rest)) :
    series item (close? b) (fuel + 1) before ts =
      series item (close? b) fuel (a :: before) rest := by
  simp [series, hclose, hitem]

/-- An item before the closing bracket: the series ends with it. -/
theorem series_last {α : Type} {item : Rule α} {b : Bracket} {ts rest : List Token} {a : α}
    (fuel : Nat) (before : List α) (hclose : close? b ts = none)
    (hitem : item ts = some (a, .closing b :: rest)) :
    series item (close? b) (fuel + 1) before ts = some (before.reverse ++ [a], rest) := by
  have hstop : close? b (.closing b :: rest) = some rest := by simp [close?]
  simp [series, hclose, hitem, hstop]

/-- Whether the rules `inner` read each of the values. -/
def Reads (inner : Rules) (items : List Nested) : Prop :=
  ∀ x ∈ items, ∀ rest, Ends rest → inner.expression (x.tokens ++ rest) = some (x.expression, rest)

theorem Reads.item {inner : Rules} {x : Nested} {items : List Nested} (h : Reads inner (x :: items))
    {rest : List Token} (hend : Ends rest) :
    Grammar.item inner (x.tokens ++ rest) = some (x.expression, rest) := by
  rw [item_of_beginsPlainly inner (beginsPlainly_tokens x rest), h x (by simp) rest hend]

theorem Reads.tail {inner : Rules} {x : Nested} {items : List Nested}
    (h : Reads inner (x :: items)) : Reads inner items :=
  fun y hy => h y (by simp [hy])

/-- A series reads its items one by one up to the closing bracket. -/
theorem series_tokensAfter (inner : Rules) (x : Nested) (items : List Nested)
    (hread : Reads inner (x :: items)) (fuel : Nat) (hfuel : items.length < fuel)
    (before : List Expression) (rest : List Token) :
    series (item inner) (close? .square) fuel before
      (x.tokens ++ (Nested.tokensAfter items ++ rest)) =
        some (before.reverse ++ (x :: items).map Nested.expression, rest) := by
  induction items generalizing x fuel before with
  | nil =>
      obtain ⟨fuel, rfl⟩ : ∃ n, fuel = n + 1 := ⟨fuel - 1, by omega⟩
      have hclose := close?_of_beginsPlainly .square
        (beginsPlainly_tokens x (.closing .square :: rest))
      exact series_last fuel before hclose (hread.item trivial)
  | cons y items ih =>
      obtain ⟨fuel, rfl⟩ : ∃ n, fuel = n + 1 := ⟨fuel - 1, by omega⟩
      have hclose := close?_of_beginsPlainly .square
        (beginsPlainly_tokens x (Nested.tokensAfter (y :: items) ++ rest))
      have hitem := hread.item (ends_tokensAfter (y :: items) rest)
      have hlength : items.length < fuel := by
        simp only [List.length_cons] at hfuel
        omega
      have hnext := ih y hread.tail fuel hlength (x.expression :: before)
      rw [tokensAfter_cons_append] at hclose hitem ⊢
      rw [series_next fuel before hclose hitem, hnext]
      simp

/-- What follows an opening square bracket is read as the list of the items. -/
theorem square_tokensWithin (inner : Rules) (items : List Nested) (hread : Reads inner items)
    (fuel : Nat) (hfuel : items.length ≤ fuel) (rest : List Token) :
    square inner fuel (Nested.tokensWithin items ++ rest) =
      some ((Nested.list items).expression, rest) := by
  cases items with
  | nil => rfl
  | cons x items =>
      have hplain := beginsPlainly_tokens x (Nested.tokensAfter items ++ rest)
      have hfirst := hread.item (ends_tokensAfter items rest)
      have hopen : square inner fuel (x.tokens ++ (Nested.tokensAfter items ++ rest)) =
          display inner fuel .square .list (fun e => some (.list [e])) x.expression
            (Nested.tokensAfter items ++ rest) := by
        rcases hplain.cases with ⟨s, tail, h⟩ | ⟨b, tail, h⟩ <;>
          rw [h] at hfirst ⊢ <;> simp [square, hfirst]
      rw [Nested.tokensWithin, List.append_assoc, hopen, Nested.expression_list]
      cases items with
      | nil => simp [Nested.tokensAfter, display, close?]
      | cons y items =>
          have hlength : items.length < fuel := by
            simp only [List.length_cons] at hfuel
            omega
          have hseries :=
            series_tokensAfter inner y items hread.tail fuel hlength [x.expression] rest
          simp [Nested.tokensAfter, display, hseries]

/-- The tokens of a nested value are read as its expression. -/
theorem expression_tokens (x : Nested) (fuel : Nat) (hfuel : x.tokens.length ≤ fuel)
    (rest : List Token) (hend : Ends rest) :
    (rules fuel).expression (x.tokens ++ rest) = some (x.expression, rest) := by
  induction x using Nested.induct generalizing fuel rest with
  | text s =>
      obtain ⟨fuel, rfl⟩ : ∃ n, fuel = n + 1 := ⟨fuel - 1, by simp [Nested.tokens] at hfuel; omega⟩
      have hbegin := beginsPlainly_tokens (.text s) rest
      exact expression_of_atom (rules fuel) fuel hbegin (texts_of_ends s hend) hend
  | list items ih =>
      have hlength := Nested.length_lt_tokens items
      obtain ⟨fuel, rfl⟩ : ∃ n, fuel = n + 1 := ⟨fuel - 1, by omega⟩
      -- The brackets are two tokens of the list, so what is left suffices for each item.
      have hread : Reads (rules fuel) items := by
        intro y hy rest hend
        have hlt := Nested.length_tokens_lt hy
        exact ih y hy fuel (by omega) rest hend
      have hsquare := square_tokensWithin (rules fuel) items hread (fuel + 1) (by omega) rest
      have hbegin := beginsPlainly_tokens (.list items) rest
      exact expression_of_atom (rules fuel) fuel hbegin hsquare hend

theorem read?_tokens (x : Nested) : Grammar.read? x.tokens = some x.expression := by
  have h := expression_tokens x (x.tokens.length + 1) (by omega) [] trivial
  rw [List.append_nil] at h
  simp [Grammar.read?, h]

end Expression.Grammar

end DocIndex
