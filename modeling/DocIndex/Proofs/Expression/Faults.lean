import DocIndex.Expression.Basic
import DocIndex.Proofs.Outcomes

/-! # Values that cannot be built

The value of an expression with parts is found in steps, from left to right, and the first step that
fails decides. Most failures only say that the expression is no literal. The others come from a
literal whose value cannot be built: a member of a set or a key that can change, or a whole number
beyond all doubles that is added to an imaginary one.
-/

namespace DocIndex.Expression

/-! ## Steps -/

/-- A step on the way to the value of an expression: a part is valued, or its value is tried as a
member or a key. -/
inductive Step where
  | value (e : Expression)
  | hash (e : Expression)

def Step.fault? : Step → Option Literal.Fault
  | value e => failure? e.value
  | hash e => e.value.toOption.bind fun v => v.unhashable?.map .unhashable

/-- The steps that are taken for the parts of an expression, in their order. -/
def steps : Expression → List Step
  | list items => items.map .value
  | tuple items => items.map .value
  | set items => items.flatMap fun e => [.value e, .hash e]
  | dict pairs => pairs.flatMap fun (k, e) => [.value k, .value e, .hash k]
  | _ => []

theorem failure?_values (items : List Expression) :
    failure? (values items) = (items.map Step.value).findSome? Step.fault? := by
  induction items with
  | nil => rfl
  | cons e rest ih =>
      rw [values, List.map_cons, List.findSome?_cons, ← ih, Step.fault?]
      cases e.value with
      | error fault => rfl
      | ok v => cases values rest <;> rfl

theorem fault?_hash {e : Expression} {v : Literal} (h : e.value = .ok v) :
    (Step.hash e).fault? = failure? v.hashed := by
  rw [Step.fault?, h, Literal.hashed, Except.toOption, Option.bind_some]
  cases v.unhashable? <;> rfl

theorem failure?_members (items : List Expression) :
    failure? (members items) =
      (items.flatMap fun e => [Step.value e, .hash e]).findSome? Step.fault? := by
  induction items with
  | nil => rfl
  | cons e rest ih =>
      rw [members, List.flatMap_cons, List.findSome?_append, ← ih, List.findSome?_cons,
        List.findSome?_singleton, Step.fault?]
      cases hvalue : e.value with
      | error fault => rfl
      | ok v =>
          rw [fault?_hash hvalue]
          cases hhash : v.hashed with
          | error fault =>
              simp only [bind, Except.bind, hhash]
              rfl
          | ok v' =>
              simp only [bind, Except.bind, hhash]
              cases members rest <;> rfl

theorem failure?_entries (pairs : List (Expression × Expression)) :
    failure? (entries pairs) =
      (pairs.flatMap fun (k, e) => [Step.value k, .value e, .hash k]).findSome? Step.fault? := by
  induction pairs with
  | nil => rfl
  | cons pair rest ih =>
      obtain ⟨k, e⟩ := pair
      rw [entries, List.flatMap_cons, List.findSome?_append, ← ih, List.findSome?_cons,
        List.findSome?_cons, List.findSome?_singleton, Step.fault?, Step.fault?]
      cases hkey : k.value with
      | error fault => rfl
      | ok key =>
          cases e.value with
          | error fault => rfl
          | ok v =>
              rw [fault?_hash hkey]
              cases hhash : key.hashed with
              | error fault =>
                  simp only [bind, Except.bind, hhash]
                  rfl
              | ok key' =>
                  simp only [bind, Except.bind, hhash]
                  cases entries rest <;> rfl

/-- The first fault among the steps is that of the expression, unless it has no parts and either is
no literal or is a sum. -/
theorem failure?_value (e : Expression) :
    failure? e.value = e.steps.findSome? Step.fault? ∨
      e.steps = [] ∧
        (e.value = .error .unreadable ∨ ∃ left negative right, e = .sum left negative right) := by
  cases e with
  | constant v => exact .inl rfl
  | list items => exact .inl (by rw [value, failure?_map, failure?_values, steps])
  | tuple items => exact .inl (by rw [value, failure?_map, failure?_values, steps])
  | set items => exact .inl (by rw [value, failure?_map, failure?_members, steps])
  | dict pairs => exact .inl (by rw [value, failure?_map, failure?_entries, steps])
  | signed negative e =>
      rw [value]
      cases (signed negative e).signedNumber? with
      | none => exact .inr ⟨rfl, .inl rfl⟩
      | some v => exact .inl rfl
  | sum left negative right => exact .inr ⟨rfl, .inr ⟨_, _, _, rfl⟩⟩
  | call function =>
      cases function with
      | name letters =>
          rw [value]
          split
          · exact .inl rfl
          · exact .inr ⟨rfl, .inl rfl⟩
      | _ => exact .inr ⟨rfl, .inl rfl⟩
  | _ => exact .inr ⟨rfl, .inl rfl⟩

theorem sizeOf_lt_of_mem_steps {e x : Expression} (h : Step.value x ∈ e.steps) :
    sizeOf x < sizeOf e := by
  cases e with
  | list items =>
      simp only [steps, List.mem_map, Step.value.injEq, exists_eq_right] at h
      have hlt := List.sizeOf_lt_of_mem h
      simp only [list.sizeOf_spec]
      omega
  | tuple items =>
      simp only [steps, List.mem_map, Step.value.injEq, exists_eq_right] at h
      have hlt := List.sizeOf_lt_of_mem h
      simp only [tuple.sizeOf_spec]
      omega
  | set items =>
      obtain ⟨y, hy, hx⟩ := List.mem_flatMap.mp h
      obtain rfl : x = y := by simpa using hx
      have hlt := List.sizeOf_lt_of_mem hy
      simp only [set.sizeOf_spec]
      omega
  | dict pairs =>
      obtain ⟨⟨k, v⟩, hpair, hx⟩ := List.mem_flatMap.mp h
      have hlt := List.sizeOf_lt_of_mem hpair
      have hpart : x = k ∨ x = v := by simpa using hx
      simp only [Prod.mk.sizeOf_spec] at hlt
      simp only [dict.sizeOf_spec]
      rcases hpart with rfl | rfl <;> omega
  | _ => cases h

/-! ## The first fault -/

/-- The value cannot be built, and this is why: the first step that fails is to value a part of
which the same is true, or to try a value that can change, or else the expression adds a whole
number beyond all doubles to an imaginary one. -/
inductive Stops : Expression → Literal.Fault → Prop
  | part {e x : Expression} {before after : List Step} {fault : Literal.Fault}
      (h : e.steps = before ++ .value x :: after) (hbefore : ∀ step ∈ before, step.fault? = none)
      (hx : Stops x fault) : Stops e fault
  | hash {e x : Expression} {before after : List Step} {v : Literal} {typeName : String}
      (h : e.steps = before ++ .hash x :: after) (hbefore : ∀ step ∈ before, step.fault? = none)
      (hx : x.value = .ok v) (hv : v.unhashable? = some typeName) :
      Stops e (.unhashable typeName)
  | sum {left right : Expression} {n : Int} {re im : Float} (negative : Bool)
      (hleft : left.signedNumber? = some (.int n)) (hn : Decimal.intToFloat? n = none)
      (hright : right.number? = some (.complex re im)) :
      Stops (.sum left negative right) .tooLarge

theorem value_of_steps {e : Expression} {before after : List Step} {step : Step}
    {fault : Literal.Fault} (h : e.steps = before ++ step :: after)
    (hbefore : ∀ step ∈ before, step.fault? = none) (hstep : step.fault? = some fault) :
    e.value = .error fault := by
  rcases failure?_value e with hvalue | ⟨hnone, -⟩
  · rw [← failure?_eq_some_iff, hvalue]
    exact List.findSome?_eq_some_iff.mpr ⟨before, step, after, h, hstep, hbefore⟩
  · rw [hnone] at h
    simp at h

theorem Stops.value {e : Expression} {fault : Literal.Fault} (h : Stops e fault) :
    e.value = .error fault := by
  induction h with
  | part h hbefore _ ih => exact value_of_steps h hbefore (failure?_eq_some_iff.mpr ih)
  | hash h hbefore hx hv =>
      refine value_of_steps h hbefore ?_
      rw [fault?_hash hx, Literal.hashed, hv]
      rfl
  | sum negative hleft hn hright =>
      rw [Expression.value, complexNumber, hleft, hright]
      simp only [Option.bind_some, Literal.real?, hn]
      rfl

theorem Stops.ne_unreadable {e : Expression} {fault : Literal.Fault} (h : Stops e fault) :
    fault ≠ .unreadable := by
  induction h with
  | part _ _ _ ih => exact ih
  | hash => exact Literal.Fault.noConfusion
  | sum => exact Literal.Fault.noConfusion

theorem stops_of_complexNumber {left right : Expression} {negative : Bool} {fault : Literal.Fault}
    (h : complexNumber left negative right = .error fault) (hne : fault ≠ .unreadable) :
    Stops (.sum left negative right) fault := by
  unfold complexNumber at h
  split at h
  · rename_i x re im hreal hright
    obtain ⟨v, hleft, hv⟩ := Option.bind_eq_some_iff.mp hreal
    cases x with
    | ok x => cases h
    | error fault' =>
        cases h
        cases v with
        | int n =>
            cases hn : Decimal.intToFloat? n with
            | some x =>
                rw [Literal.real?, hn] at hv
                cases hv
            | none =>
                rw [Literal.real?, hn] at hv
                cases hv
                exact .sum negative hleft hn hright
        | _ => cases hv
  · cases h
    exact absurd rfl hne

theorem stops_of_value (e : Expression) {fault : Literal.Fault} (h : e.value = .error fault)
    (hne : fault ≠ .unreadable) : Stops e fault := by
  rcases failure?_value e with hvalue | ⟨-, hunreadable | ⟨left, negative, right, rfl⟩⟩
  · rw [failure?_eq_some_iff.mpr h] at hvalue
    obtain ⟨before, step, after, hsteps, hstep, hbefore⟩ :=
      List.findSome?_eq_some_iff.mp hvalue.symm
    cases step with
    | value x =>
        -- the part at fault is smaller, and its fault is not that it is no literal
        have hlt := sizeOf_lt_of_mem_steps (e := e) (x := x) (by simp [hsteps])
        exact .part hsteps hbefore (stops_of_value x (failure?_eq_some_iff.mp hstep) hne)
    | hash x =>
        obtain ⟨v, hx, hfault⟩ := Option.bind_eq_some_iff.mp hstep
        obtain ⟨typeName, hv, rfl⟩ := Option.map_eq_some_iff.mp hfault
        refine .hash hsteps hbefore ?_ hv
        cases hxv : x.value with
        | error _ =>
            rw [hxv] at hx
            cases hx
        | ok w =>
            rw [hxv] at hx
            cases hx
            rfl
  · rw [hunreadable] at h
    cases h
    exact absurd rfl hne
  · rw [value] at h
    exact stops_of_complexNumber h hne
termination_by sizeOf e

theorem stops_iff {e : Expression} {fault : Literal.Fault} :
    Stops e fault ↔ e.value = .error fault ∧ fault ≠ .unreadable :=
  ⟨fun h => ⟨h.value, h.ne_unreadable⟩, fun h => stops_of_value e h.1 h.2⟩

end DocIndex.Expression
