import SpatialQuery.Binding
import SpatialQuery.Proofs.Outcome

namespace SpatialQuery.Binding

variable {registry : Registry} {type item inner : TypeRef} {literal : Literal} {v : Value}
  {error : CoercionError}

/-- The elements that a literal stands for at a list type. -/
def elements : Literal → List Literal
  | .list literals => literals
  | literal => [literal]

def coerceElement (registry : Registry) (type : TypeRef) (literal : Literal) : Coerced Value := do
  element type (← coerceLiteral registry type literal)

theorem coerceLiteral_null (registry : Registry) (type : TypeRef) :
    coerceLiteral registry type .null = .ok none := by
  cases type <;> rfl

theorem coerceLiteral_nonNull (registry : Registry) (inner : TypeRef) (literal : Literal) :
    coerceLiteral registry (.nonNull inner) literal = coerceLiteral registry inner literal := by
  cases literal with
  | null => rw [coerceLiteral_null, coerceLiteral_null]
  | int | float | string | boolean | enum | list | object => rfl

theorem coerceLiteral_list (registry : Registry) (item : TypeRef) (h : literal ≠ .null) :
    coerceLiteral registry (.list item) literal =
      ((elements literal).mapM (coerceElement registry item)).map fun values => some (.list values) := by
  have single (x : Coerced (Option Value)) :
      (x >>= fun runtime => element item runtime >>= fun v => pure (some (Value.list [v]))) =
        ((x >>= element item).map fun v => [v]).map fun values => some (.list values) := by
    cases x with
    | error error => rfl
    | ok runtime =>
      rw [Outcome.ok_bind, Outcome.ok_bind]
      cases element item runtime <;> rfl
  cases literal with
  | null => exact absurd rfl h
  | list literals => exact Outcome.bind_pure_eq_map _ _
  | int | float | string | boolean | enum | object =>
    rw [elements, Outcome.mapM_singleton]
    · exact single _
    · exact nofun

theorem coerceLiteral_named (registry : Registry) (name : String) (h : literal ≠ .null) :
    coerceLiteral registry (.named name) literal =
      match registry.get? name with
      | some scalar => scalar.parseLiteral literal
      | none => .error (unregistered name) := by
  cases literal with
  | null => exact absurd rfl h
  | int | float | string | boolean | enum | list | object => rfl

theorem element_eq_ok_iff {runtime : Option Value} :
    element type runtime = .ok v ↔
      runtime = some v ∨ runtime = none ∧ type.isNonNull = false ∧ v = .json .null := by
  cases runtime with
  | some w => simp [element]
  | none => cases h : type.isNonNull <;> simp [element, h, eq_comm]

theorem element_eq_error_iff {runtime : Option Value} :
    element type runtime = .error error ↔
      runtime = none ∧ type.isNonNull = true ∧ error = nullElement type := by
  cases runtime with
  | some w => simp [element]
  | none => cases h : type.isNonNull <;> simp [element, h, eq_comm]

/-- Whether a value has the shape of a type, given what values a name stands for. A list may hold null
in place of a value unless its items are of a non-null type. -/
def Fits (has : String → Value → Prop) : TypeRef → Value → Prop
  | .named name, v => has name v
  | .nonNull inner, v => Fits has inner v
  | .list item, .list values =>
    ∀ v ∈ values, Fits has item v ∨ item.isNonNull = false ∧ v = .json .null
  | .list _, _ => False

/-- What a registered scalar gives for a literal is what its name stands for. -/
theorem fits_of_coerceLiteral {has : String → Value → Prop}
    (hh : ∀ name scalar, registry.get? name = some scalar → ∀ literal v,
      scalar.parseLiteral literal = .ok (some v) → has name v)
    (h : coerceLiteral registry type literal = .ok (some v)) : Fits has type v := by
  have present : literal ≠ .null := by
    rintro rfl
    rw [coerceLiteral_null] at h
    cases h
  induction type generalizing literal v with
  | named name =>
    rw [coerceLiteral_named registry name present] at h
    cases hs : registry.get? name with
    | none => rw [hs] at h; cases h
    | some scalar => rw [hs] at h; exact hh name scalar hs literal v h
  | nonNull inner ih =>
    rw [coerceLiteral_nonNull] at h
    exact ih h present
  | list item ih =>
    rw [coerceLiteral_list registry item present] at h
    obtain ⟨values, hm, hv⟩ := Outcome.map_eq_ok_iff.mp h
    cases hv
    intro v hv
    obtain ⟨literal, _, hl⟩ := Outcome.exists_of_mem_mapM hm hv
    obtain ⟨runtime, hr, he⟩ := Outcome.bind_eq_ok_iff.mp hl
    rcases element_eq_ok_iff.mp he with rfl | ⟨_, nullable, null⟩
    · refine .inl (ih hr ?_)
      rintro rfl
      rw [coerceLiteral_null] at hr
      cases hr
    · exact .inr ⟨nullable, null⟩

/-- Without a value for a literal, it is null, or a scalar has parsed it to nothing. -/
theorem eq_null_of_coerceLiteral
    (hn : ∀ name scalar, registry.get? name = some scalar → ∀ literal,
      scalar.parseLiteral literal = .ok none → literal = .null)
    (h : coerceLiteral registry type literal = .ok none) : literal = .null := by
  by_cases present : literal = .null
  · exact present
  induction type with
  | named name =>
    rw [coerceLiteral_named registry name present] at h
    cases hs : registry.get? name with
    | none => rw [hs] at h; cases h
    | some scalar => rw [hs] at h; exact hn name scalar hs literal h
  | nonNull inner ih =>
    rw [coerceLiteral_nonNull] at h
    exact ih h
  | list item =>
    rw [coerceLiteral_list registry item present] at h
    obtain ⟨_, _, ⟨⟩⟩ := Outcome.map_eq_ok_iff.mp h

/-- A literal fails by a null among elements, by a name without a scalar, or as a scalar refuses. -/
theorem coerceLiteral_eq_error (h : coerceLiteral registry type literal = .error error) :
    (∃ item, error = nullElement item) ∨ (∃ name, error = unregistered name) ∨
      ∃ name scalar literal, registry.get? name = some scalar ∧
        scalar.parseLiteral literal = .error error := by
  have present : literal ≠ .null := by
    rintro rfl
    rw [coerceLiteral_null] at h
    cases h
  induction type generalizing literal with
  | named name =>
    rw [coerceLiteral_named registry name present] at h
    cases hs : registry.get? name with
    | none =>
      rw [hs] at h
      cases h
      exact .inr (.inl ⟨name, rfl⟩)
    | some scalar =>
      rw [hs] at h
      exact .inr (.inr ⟨name, scalar, literal, hs, h⟩)
  | nonNull inner ih =>
    rw [coerceLiteral_nonNull] at h
    exact ih h present
  | list item ih =>
    rw [coerceLiteral_list registry item present, Outcome.map_eq_error_iff] at h
    obtain ⟨_, literal, _, _, _, he⟩ := Outcome.mapM_eq_error_iff.mp h
    rcases Outcome.bind_eq_error_iff.mp he with hl | ⟨runtime, _, he⟩
    · refine ih hl ?_
      rintro rfl
      rw [coerceLiteral_null] at hl
      cases hl
    · exact .inl ⟨item, (element_eq_error_iff.mp he).2.2⟩

/-- The value of an argument, which is missing where nothing was selected for it. -/
def selected (registry : Registry) (supplied : List Argument) (definition : ArgumentDefinition) :
    Coerced (Option Value) :=
  match select? definition supplied with
  | some literal => coerceLiteral registry definition.type literal
  | none => .ok none

variable {supplied : List Argument} {definition : ArgumentDefinition} {entry : String × Option Value}

/-- An argument's value, unless its type wants one and there is none. -/
theorem bind_eq (registry : Registry) (supplied : List Argument) (definition : ArgumentDefinition) :
    bind registry supplied definition =
      (selected registry supplied definition >>= fun value =>
        if value.isNone && definition.type.isNonNull then
          .error (.data definition.type.namedType definition.missingMessage)
        else .ok (definition.name, value)) := by
  unfold bind selected
  cases select? definition supplied <;> rfl

theorem bind_eq_ok_iff :
    bind registry supplied definition = .ok entry ↔
      selected registry supplied definition = .ok entry.2 ∧ entry.1 = definition.name ∧
        (entry.2 = none → definition.type.isNonNull = false) := by
  rw [bind_eq, Outcome.bind_eq_ok_iff]
  constructor
  · rintro ⟨value, hs, h⟩
    split at h
    · cases h
    · next present =>
      cases h
      refine ⟨hs, rfl, ?_⟩
      rintro rfl
      exact Bool.eq_false_iff.mpr present
  · rintro ⟨hs, hn, present⟩
    obtain ⟨name, value⟩ := entry
    cases hn
    refine ⟨value, hs, if_neg ?_⟩
    cases value with
    | none => exact Bool.eq_false_iff.mp (present rfl)
    | some v => exact Bool.false_ne_true

/-- An argument fails as its literal does, or when its type wants a value and there is none. -/
theorem bind_eq_error_iff :
    bind registry supplied definition = .error error ↔
      selected registry supplied definition = .error error ∨
        selected registry supplied definition = .ok none ∧ definition.type.isNonNull = true ∧
          error = .data definition.type.namedType definition.missingMessage := by
  rw [bind_eq, Outcome.bind_eq_error_iff]
  refine or_congr_right ⟨?_, ?_⟩
  · rintro ⟨value, hs, h⟩
    split at h
    · next missing =>
      cases h
      cases value with
      | none => exact ⟨hs, missing, rfl⟩
      | some v => cases missing
    · cases h
  · rintro ⟨hs, nonNull, rfl⟩
    exact ⟨none, hs, if_pos nonNull⟩

/-- A bound value fits the type of its argument, whether it was supplied or is the default. -/
theorem fits_of_bind {has : String → Value → Prop}
    (hh : ∀ name scalar, registry.get? name = some scalar → ∀ literal v,
      scalar.parseLiteral literal = .ok (some v) → has name v)
    (h : bind registry supplied definition = .ok entry) (hv : entry.2 = some v) :
    Fits has definition.type v := by
  have hs := (bind_eq_ok_iff.mp h).1
  rw [hv, selected] at hs
  split at hs
  · exact fits_of_coerceLiteral hh hs
  · cases hs

end SpatialQuery.Binding
