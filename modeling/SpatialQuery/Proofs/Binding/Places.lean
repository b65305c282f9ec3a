import SpatialQuery.Proofs.Binding.Coercing
import SpatialQuery.Proofs.Scalar.Failures

/-! Binding fails at the first place that fails by itself, when arguments are gone through in the order of
their definitions and lists from left to right and depth first. -/
namespace SpatialQuery

namespace Coerced

/-- The error of an outcome, where a value may be wanted so that none is an error as well. -/
def lack? (wanted : Option CoercionError) : Coerced (Option Value) → Option CoercionError
  | .ok (some _) => none
  | .ok none => wanted
  | .error error => some error

theorem lack?_eq_some_iff {wanted : Option CoercionError} {x : Coerced (Option Value)}
    {error : CoercionError} :
    x.lack? wanted = some error ↔ x = .error error ∨ x = .ok none ∧ wanted = some error := by
  rcases x with e | (_ | v) <;> simp [lack?]

/-- A last stage that fails only without a value, and then as is wanted. -/
theorem failure?_bind_eq_lack? {α : Type} {wanted : Option CoercionError}
    {f : Option Value → Coerced α} (hs : ∀ v, (f (some v)).failure? = none)
    (hn : (f none).failure? = wanted) (x : Coerced (Option Value)) :
    failure? (x >>= f) = x.lack? wanted := by
  rcases x with error | (_ | v)
  · rfl
  · exact hn
  · exact hs v

end Coerced

namespace Binding

/-- A place where a literal is for the type of a name. Of null nothing is asked but whether it may be. -/
structure Place where
  name : String
  literal : Literal
  /-- What is reported without a value; nothing if none is wanted. -/
  wanted : Option CoercionError

namespace Place

/-- The value at a place by itself. -/
def value (registry : Registry) (place : Place) : Coerced (Option Value) :=
  if place.literal.isNull then .ok none
  else match registry.get? place.name with
    | some scalar => scalar.parseLiteral place.literal
    | none => .error (unregistered place.name)

/-- The error at a place by itself. -/
def failure? (registry : Registry) (place : Place) : Option CoercionError :=
  (place.value registry).lack? place.wanted

end Place

/-- What is reported of a list's element without a value. -/
def wantedElement (item : TypeRef) : Option CoercionError :=
  if item.isNonNull then some (nullElement item) else none

/-- What is reported of an argument without a value. -/
def wantedArgument (definition : ArgumentDefinition) : Option CoercionError :=
  if definition.type.isNonNull then
    some (.data definition.type.namedType definition.missingMessage)
  else none

/-- The places of a literal for a type. Lists are gone through from left to right and depth first, and
what is no list at a list type is its only element. -/
def places (wanted : Option CoercionError) : TypeRef → Literal → List Place
  | type, .null => [⟨type.namedType, .null, wanted⟩]
  | .nonNull inner, literal => places wanted inner literal
  | .list item, literal =>
    (elements literal).flatMap fun element => places (wantedElement item) item element
  | .named name, literal => [⟨name, literal, wanted⟩]

/-- The places of an argument. Where nothing is selected the place is that of null. -/
def argumentPlaces (supplied : List Argument) (definition : ArgumentDefinition) : List Place :=
  places (wantedArgument definition) definition.type ((select? definition supplied).getD .null)

/-- An element fails as its literal does, or for want of a value. -/
theorem failure?_coerceElement (registry : Registry) (item : TypeRef) (literal : Literal) :
    (coerceElement registry item literal).failure? =
      (coerceLiteral registry item literal).lack? (wantedElement item) := by
  refine Coerced.failure?_bind_eq_lack? (fun _ => rfl) ?_ _
  rw [element, wantedElement]
  cases item.isNonNull <;> rfl

/-- An argument fails as its literal does, or for want of a value. -/
theorem failure?_bind_eq_lack? (registry : Registry) (supplied : List Argument)
    (definition : ArgumentDefinition) :
    Coerced.failure? (bind registry supplied definition) =
      (selected registry supplied definition).lack? (wantedArgument definition) := by
  rw [bind_eq]
  refine Coerced.failure?_bind_eq_lack? (fun _ => rfl) ?_ _
  rw [wantedArgument]
  cases definition.type.isNonNull <;> rfl

theorem findSome?_flatMap {α β γ : Type} (f : β → Option γ) (g : α → List β) (as : List α) :
    (as.flatMap g).findSome? f = as.findSome? fun a => (g a).findSome? f := by
  induction as with
  | nil => rfl
  | cons a as ih =>
    rw [List.flatMap_cons, List.findSome?_append, ih, List.findSome?_cons]
    cases (g a).findSome? f <;> rfl

/-- A literal for a type fails at the first of its places that fails. -/
theorem lack?_coerceLiteral (registry : Registry) (type : TypeRef) (literal : Literal)
    (wanted : Option CoercionError) :
    (coerceLiteral registry type literal).lack? wanted =
      (places wanted type literal).findSome? (Place.failure? registry) := by
  -- The induction is on the visit, whose cases are those of reading a literal for a type.
  fun_induction places wanted type literal with
  | case1 wanted type =>
    rw [coerceLiteral_null, List.findSome?_singleton]
    rfl
  | case2 wanted inner literal null ih => rw [coerceLiteral_nonNull, ih]
  | case3 wanted item literal null ih =>
    rw [coerceLiteral_list registry item null, findSome?_flatMap]
    simp only [← ih, ← failure?_coerceElement, ← Coerced.failure?_mapM]
    cases (elements literal).mapM (coerceElement registry item) <;> rfl
  | case4 wanted name literal null =>
    have present : literal.isNull = false := Bool.eq_false_iff.mpr (mt literal.isNull_iff.mp null)
    rw [coerceLiteral_named registry name null, List.findSome?_singleton, Place.failure?, Place.value,
      present]
    rfl

/-- An argument fails at the first of its places that fails. -/
theorem failure?_bind (registry : Registry) (supplied : List Argument)
    (definition : ArgumentDefinition) :
    Coerced.failure? (bind registry supplied definition) =
      (argumentPlaces supplied definition).findSome? (Place.failure? registry) := by
  rw [failure?_bind_eq_lack?, argumentPlaces, ← lack?_coerceLiteral, selected]
  cases select? definition supplied with
  | none => rw [Option.getD_none, coerceLiteral_null]
  | some literal => rfl

/-- Binding fails at the first place that fails. -/
theorem failure?_coerceArguments (registry : Registry) (definitions : List ArgumentDefinition)
    (supplied : List Argument) :
    (coerceArguments registry definitions supplied).failure? =
      (definitions.flatMap (argumentPlaces supplied)).findSome? (Place.failure? registry) := by
  rw [coerceArguments, Coerced.failure?_mapM, findSome?_flatMap]
  simp only [failure?_bind]

end Binding
end SpatialQuery
