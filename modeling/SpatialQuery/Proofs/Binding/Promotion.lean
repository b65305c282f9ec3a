import SpatialQuery.Proofs.Binding.Coercing
import SpatialQuery.Proofs.Scalar.Parsing

namespace SpatialQuery

/-- The number of lists that a type has around its name. -/
def TypeRef.layers : TypeRef → Nat
  | .named _ => 0
  | .list item => item.layers + 1
  | .nonNull inner => inner.layers

/-- A literal in as many brackets. -/
def Literal.wrap : Nat → Literal → Literal
  | 0, literal => literal
  | n + 1, literal => .list [literal.wrap n]

/-- A value in as many lists of one. -/
def Value.wrap : Nat → Value → Value
  | 0, v => v
  | n + 1, v => .list [v.wrap n]

namespace Binding

open Registry (standard)

variable {registry : Registry} {type : TypeRef} {x : Literal} {j : Nat} {v : Value}
  {supplied other : List Argument} {definition : ArgumentDefinition}

/-- The literals that stand for a list of one where a list is wanted. -/
def Single (x : Literal) : Prop := x ≠ .null ∧ ∀ items, x ≠ .list items

theorem Single.elements_eq (h : Single x) : elements x = [x] := by
  cases x with
  | list items => exact absurd rfl (h.2 items)
  | null | int | float | string | boolean | enum | object => rfl

theorem list_ne_null (items : List Literal) : Literal.list items ≠ .null := nofun

/-- A literal with one element at a list type is the list of that. -/
theorem coerceLiteral_of_elements (registry : Registry) (item : TypeRef) {literal : Literal}
    (hn : literal ≠ .null) (he : elements literal = [x]) :
    coerceLiteral registry (.list item) literal =
      (coerceElement registry item x).map fun v => some (.list [v]) := by
  rw [coerceLiteral_list registry item hn, he, Outcome.mapM_singleton]
  cases coerceElement registry item x <;> rfl

/-- Brackets up to the lists of the type make no difference. -/
theorem coerceLiteral_wrap (registry : Registry) (h : Single x) (hj : j ≤ type.layers) :
    coerceLiteral registry type (x.wrap j) = coerceLiteral registry type x := by
  -- Each list of the type takes off one bracket, and without any left it takes the literal as one.
  induction type generalizing j with
  | named name =>
    obtain rfl : j = 0 := Nat.le_zero.mp hj
    rfl
  | nonNull inner ih =>
    rw [coerceLiteral_nonNull, coerceLiteral_nonNull]
    exact ih hj
  | list item ih =>
    cases j with
    | zero => rfl
    | succ j =>
      have unwrapped : coerceElement registry item (x.wrap j) = coerceElement registry item x := by
        rw [coerceElement, ih (Nat.le_of_succ_le_succ hj), coerceElement]
      rw [Literal.wrap, coerceLiteral_of_elements registry item (list_ne_null _) rfl, unwrapped,
        coerceLiteral_of_elements registry item h.1 h.elements_eq]

/-- An element read from a single literal is what the type of its name parses, or null for nothing, in
as many lists as its type has. -/
theorem eq_wrap_of_coerceElement (h : Single x) (hv : coerceElement registry type x = .ok v) :
    ∃ scalar core, registry.get? type.namedType = some scalar ∧ scalar.parseLiteral x = .ok core ∧
      v = Value.wrap type.layers (core.getD (.json .null)) := by
  induction type generalizing v with
  | named name =>
    obtain ⟨core, hc, he⟩ := Outcome.bind_eq_ok_iff.mp hv
    rw [coerceLiteral_named registry name h.1] at hc
    cases hs : registry.get? name with
    | none =>
      rw [hs] at hc
      cases hc
    | some scalar =>
      rw [hs] at hc
      refine ⟨scalar, core, hs, hc, ?_⟩
      rcases element_eq_ok_iff.mp he with rfl | ⟨rfl, _, rfl⟩ <;> rfl
  | nonNull inner ih =>
    obtain ⟨runtime, hr, he⟩ := Outcome.bind_eq_ok_iff.mp hv
    rw [coerceLiteral_nonNull] at hr
    rcases element_eq_ok_iff.mp he with rfl | ⟨_, ⟨⟩, _⟩
    exact ih (Outcome.bind_eq_ok_iff.mpr ⟨_, hr, rfl⟩)
  | list item ih =>
    rw [coerceElement, coerceLiteral_of_elements registry item h.1 h.elements_eq] at hv
    obtain ⟨_, hr, he⟩ := Outcome.bind_eq_ok_iff.mp hv
    obtain ⟨w, hw, rfl⟩ := Outcome.map_eq_ok_iff.mp hr
    cases he
    obtain ⟨scalar, core, hs, hc, rfl⟩ := ih hw
    exact ⟨scalar, core, hs, hc, rfl⟩

/-- At a list type there is always a value, if the literal is not null. -/
theorem exists_of_coerceLiteral {runtime : Option Value} (hx : x ≠ .null) (hl : 0 < type.layers)
    (h : coerceLiteral registry type x = .ok runtime) : ∃ v, runtime = some v := by
  induction type with
  | named name => exact absurd hl (Nat.lt_irrefl 0)
  | nonNull inner ih =>
    rw [coerceLiteral_nonNull] at h
    exact ih hl h
  | list item =>
    rw [coerceLiteral_list registry item hx] at h
    obtain ⟨values, _, rfl⟩ := Outcome.map_eq_ok_iff.mp h
    exact ⟨_, rfl⟩

/-- No known type takes a list. -/
theorem not_parses_list {items : List Literal} {runtime : Option Value} :
    ¬ (Literal.list items).Parses runtime := by
  intro parses
  cases parses with
  | @primitive p _ _ h => cases p <;> cases h
  | geometry h => cases h

/-- More brackets than the type has lists are refused. -/
theorem exists_error_of_wrap (x : Literal) (hj : type.layers < j) :
    ∃ error, coerceLiteral standard type (x.wrap j) = .error error := by
  induction type generalizing j with
  | named name =>
    obtain ⟨j, rfl⟩ := Nat.exists_eq_succ_of_ne_zero (Nat.ne_of_gt hj)
    rw [Literal.wrap, coerceLiteral_named standard name (list_ne_null _)]
    cases hs : standard.get? name with
    | none => exact ⟨_, rfl⟩
    | some scalar =>
      cases hp : scalar.parseLiteral (.list [x.wrap j]) with
      | error error => exact ⟨error, hp⟩
      | ok runtime => exact absurd ((Scalar.Known.registered hs).parses hp) not_parses_list
  | nonNull inner ih =>
    rw [coerceLiteral_nonNull]
    exact ih hj
  | list item ih =>
    obtain ⟨j, rfl⟩ := Nat.exists_eq_succ_of_ne_zero (Nat.ne_zero_of_lt hj)
    obtain ⟨error, he⟩ := ih (Nat.lt_of_succ_lt_succ hj)
    refine ⟨error, ?_⟩
    rw [Literal.wrap, coerceLiteral_of_elements standard item (list_ne_null _) rfl, coerceElement, he]
    rfl

/-- A single literal for an argument whose type has lists may stand in brackets, one for each list or
fewer, without any difference. What it is bound to is what the type of the name parses, or null for
nothing, in exactly as many lists of one as the type has. With more brackets than that it is not bound
to anything in the standard registry. -/
theorem bind_wrap (registry : Registry) (hl : 0 < definition.type.layers) (hx : Single x)
    (hs : select? definition supplied = some x) (ho : select? definition other = some (x.wrap j)) :
    (j ≤ definition.type.layers →
      bind registry other definition = bind registry supplied definition) ∧
    (∀ entry, bind registry supplied definition = .ok entry →
      ∃ scalar core, registry.get? definition.type.namedType = some scalar ∧
        scalar.parseLiteral x = .ok core ∧ entry =
          (definition.name, some (Value.wrap definition.type.layers (core.getD (.json .null))))) ∧
    (definition.type.layers < j → ∃ error, bind standard other definition = .error error) := by
  refine ⟨fun hj => ?_, ?_, fun hj => ?_⟩
  · rw [bind_eq, bind_eq, selected, selected, hs, ho]
    simp only [coerceLiteral_wrap registry hx hj]
  · rintro ⟨name, runtime⟩ hb
    obtain ⟨hr, rfl, _⟩ := bind_eq_ok_iff.mp hb
    rw [selected, hs] at hr
    obtain ⟨v, rfl⟩ := exists_of_coerceLiteral hx.1 hl hr
    have hv : coerceElement registry definition.type x = .ok v :=
      Outcome.bind_eq_ok_iff.mpr ⟨some v, hr, rfl⟩
    obtain ⟨scalar, core, registered, parsed, rfl⟩ := eq_wrap_of_coerceElement hx hv
    exact ⟨scalar, core, registered, parsed, rfl⟩
  · obtain ⟨error, he⟩ := exists_error_of_wrap x hj
    refine ⟨error, bind_eq_error_iff.mpr (.inl ?_)⟩
    rw [selected, ho]
    exact he

/-- An identifier for lists of lists of identifiers, in one pair of brackets and in one too many. -/
theorem bind_wrap_ids :
    let ids : ArgumentDefinition :=
      { name := "ids", type := .nonNull (.list (.nonNull (.list (.named "ID")))) }
    let given (literal : Literal) : List Argument := [{ name := "ids", value := literal }]
    (0 < ids.type.layers ∧ Single (.int 4) ∧ 1 ≤ ids.type.layers ∧ ids.type.layers < 3) ∧
    bind standard (given (.list [.int 4])) ids =
      .ok ("ids", some (.list [.list [.json (.string "4")]])) ∧
    ∃ error, bind standard (given (.list [.list [.list [.int 4]]])) ids = .error error := by
  intro ids given
  have single : Single (.int 4) := ⟨nofun, nofun⟩
  have layers : 0 < ids.type.layers := by decide
  have bound : bind standard (given (.int 4)) ids =
      .ok ("ids", some (.list [.list [.json (.string "4")]])) := by rfl
  have plain : select? ids (given (.int 4)) = some (.int 4) := rfl
  have wrapped (n : Nat) : select? ids (given (Literal.wrap n (.int 4))) = some (.wrap n (.int 4)) := rfl
  have once := (bind_wrap standard layers single plain (wrapped 1)).1
  have thrice := (bind_wrap standard layers single plain (wrapped 3)).2.2
  exact ⟨⟨layers, single, by decide, by decide⟩, (once (by decide)).trans bound, thrice (by decide)⟩

end Binding
end SpatialQuery
