import SpatialQuery.Proofs.Binding.Places

namespace SpatialQuery.Binding

open Registry (standard)

variable {registry : Registry} {supplied : List Argument} {definition : ArgumentDefinition}
  {wanted : Option CoercionError} {type : TypeRef} {literal : Literal} {place : Place}
  {typeName message : String}

/-- A literal for a type that is not there, or that has no such literals. -/
inductive Place.Misuses (place : Place) : Prop where
  | unregistered (present : place.literal ≠ .null) (h : standard.get? place.name = none)
  | geometry (h : Scalar.NamesGeometry place.name) (present : place.literal ≠ .null)
    (other : ∀ fields, place.literal ≠ .object fields)

/-- Where a value is wanted, to have none is bad data. -/
def Place.Honest (place : Place) : Prop :=
  ∀ typeName message, place.wanted ≠ some (.contractViolation typeName message)

/-- Arguments and elements report their absence as bad data. -/
theorem honest_of_mem_places
    (hw : ∀ typeName message, wanted ≠ some (.contractViolation typeName message))
    (hp : place ∈ places wanted type literal) : place.Honest := by
  fun_induction places wanted type literal with
  | case1 wanted type => rwa [List.mem_singleton.mp hp]
  | case2 wanted inner literal null ih => exact ih hw hp
  | case3 wanted item literal null ih =>
    obtain ⟨element, _, hp⟩ := List.mem_flatMap.mp hp
    refine ih element ?_ hp
    intro typeName message
    cases h : item.isNonNull <;> simp [wantedElement, h, nullElement]
  | case4 wanted name literal null => rwa [List.mem_singleton.mp hp]

theorem honest_of_mem_argumentPlaces (hp : place ∈ argumentPlaces supplied definition) :
    place.Honest := by
  refine honest_of_mem_places ?_ hp
  intro typeName message
  cases h : definition.type.isNonNull <;> simp [wantedArgument, h]

namespace Place

theorem failure?_of_null (registry : Registry) (h : place.literal = .null) :
    place.failure? registry = place.wanted := by
  rw [failure?, value, h]
  rfl

theorem value_of_registered {s : Scalar} (present : place.literal ≠ .null)
    (hs : registry.get? place.name = some s) :
    place.value registry = s.parseLiteral place.literal := by
  rw [value, if_neg (mt place.literal.isNull_iff.mp present), hs]

theorem value_of_unregistered (present : place.literal ≠ .null)
    (hs : registry.get? place.name = none) :
    place.value registry = .error (unregistered place.name) := by
  rw [value, if_neg (mt place.literal.isNull_iff.mp present), hs]

/-- A misused type is reported as such, whatever is wanted. -/
theorem Misuses.exists_violation (h : place.Misuses) :
    ∃ message, place.failure? standard = some (.contractViolation place.name message) := by
  simp only [failure?, Coerced.lack?_eq_some_iff]
  have absent (present : place.literal ≠ .null) (hs : standard.get? place.name = none) :
      ∃ message, place.value standard = .error (.contractViolation place.name message) :=
    ⟨_, value_of_unregistered present hs⟩
  have violation : ∃ message,
      place.value standard = .error (.contractViolation place.name message) := by
    cases h with
    | unregistered present hs => exact absent present hs
    | geometry hg present other =>
      cases hs : standard.get? place.name with
      | none => exact absent present hs
      | some s =>
        have named : s.name = place.name := standard.named _ _ hs
        obtain ⟨message, failed⟩ :=
          (Registry.blames_of_get?_standard hs (.parseLiteral place.literal)).violation
            (.literal (named ▸ hg) present other)
        rw [value_of_registered present hs, ← named]
        exact ⟨message, Coerced.failure?_eq_some_iff.mp failed⟩
  exact violation.imp fun _ => .inl

/-- Nothing but a misused type breaks a contract. -/
theorem misuses_of_violation (honest : place.Honest)
    (h : place.failure? standard = some (.contractViolation typeName message)) :
    place.Misuses ∧ place.name = typeName := by
  rcases Coerced.lack?_eq_some_iff.mp h with failed | ⟨_, wanted⟩
  · have present : place.literal ≠ .null := by
      intro null
      rw [value, null] at failed
      cases failed
    cases hs : standard.get? place.name with
    | none =>
      rw [value_of_unregistered present hs] at failed
      cases failed
      exact ⟨.unregistered present hs, rfl⟩
    | some s =>
      have named : s.name = place.name := standard.named _ _ hs
      rw [value_of_registered present hs] at failed
      have reported : s.failure? (.parseLiteral place.literal) =
          some (.contractViolation typeName message) := Coerced.failure?_eq_some_iff.mpr failed
      have blames := Registry.blames_of_get?_standard hs (.parseLiteral place.literal)
      refine ⟨?_, named.symm.trans (blames.name_of_violation reported).symm⟩
      cases blames.breaksContract reported with
      | literal hg hn ho => exact .geometry (named ▸ hg) hn ho
  · exact absurd wanted (honest typeName message)

end Place

/-- Nothing but null, and at list types lists of nothing else. -/
def Hollow : TypeRef → Literal → Prop
  | _, .null => True
  | .nonNull inner, literal => Hollow inner literal
  | .list item, .list literals => ∀ literal ∈ literals, Hollow item literal
  | _, _ => False

theorem Hollow.eq_null (h : Hollow type literal) (hp : place ∈ places wanted type literal) :
    place.literal = .null := by
  fun_induction places wanted type literal with
  | case1 wanted type => rw [List.mem_singleton.mp hp]
  | case2 wanted inner literal null ih =>
    refine ih ?_ hp
    cases literal with
    | null => exact absurd rfl null
    | int | float | string | boolean | enum | list | object => exact h
  | case3 wanted item literal null ih =>
    obtain ⟨element, hm, inside⟩ := List.mem_flatMap.mp hp
    cases literal with
    | null => exact absurd rfl null
    | list literals => exact ih element (h element hm) inside
    | int | float | string | boolean | enum | object => exact h.elim
  | case4 wanted name literal null =>
    cases literal with
    | null => exact absurd rfl null
    | int | float | string | boolean | enum | list | object => exact h.elim

/-- Binding breaks a contract exactly where a type is misused. Of the places of the arguments in the
order of their definitions, with lists from left to right and depth first, the first that fails has a
literal for a type that is not registered, which the error names, or one for a geometry type that is
neither null nor an object. Nothing that is absent or null, and no list of nothing else, ever breaks
one, whatever its type is. -/
theorem coerceArguments_violation_iff (definitions : List ArgumentDefinition)
    (supplied : List Argument) :
    (∀ typeName, (∃ message, coerceArguments standard definitions supplied =
        .error (.contractViolation typeName message)) ↔
      ∃ before place after,
        definitions.flatMap (argumentPlaces supplied) = before ++ place :: after ∧
        (∀ earlier ∈ before, earlier.failure? standard = none) ∧ place.Misuses ∧
        place.name = typeName) ∧
    ∀ registry definition, (∀ literal ∈ select? definition supplied, Hollow definition.type literal) →
      ∀ typeName message, bind registry supplied definition ≠
        .error (.contractViolation typeName message) := by
  constructor
  · intro typeName
    have first (error : CoercionError) : coerceArguments standard definitions supplied = .error error ↔
        ∃ before place after,
          definitions.flatMap (argumentPlaces supplied) = before ++ place :: after ∧
          place.failure? standard = some error ∧
          ∀ earlier ∈ before, earlier.failure? standard = none := by
      rw [← Coerced.failure?_eq_some_iff, failure?_coerceArguments, List.findSome?_eq_some_iff]
    simp only [first]
    -- By itself a place breaks a contract exactly if it misuses its type, so the first failure decides.
    constructor
    · rintro ⟨message, before, place, after, split, failed, passed⟩
      have hp : place ∈ definitions.flatMap (argumentPlaces supplied) := by simp [split]
      obtain ⟨definition, _, hp⟩ := List.mem_flatMap.mp hp
      obtain ⟨misuses, named⟩ :=
        Place.misuses_of_violation (honest_of_mem_argumentPlaces hp) failed
      exact ⟨before, place, after, split, passed, misuses, named⟩
    · rintro ⟨before, place, after, split, passed, misuses, rfl⟩
      obtain ⟨message, failed⟩ := misuses.exists_violation
      exact ⟨message, before, place, after, split, failed, passed⟩
  · intro registry definition hollow typeName message failed
    -- All places of a hollow literal are those of nulls, which fail at most for want of a value.
    rw [← Coerced.failure?_eq_some_iff, failure?_bind] at failed
    obtain ⟨place, hp, failed⟩ := List.exists_of_findSome?_eq_some failed
    have null : place.literal = .null := by
      refine Hollow.eq_null ?_ hp
      cases hs : select? definition supplied with
      | none => cases definition.type <;> trivial
      | some literal => exact hollow literal hs
    rw [Place.failure?_of_null registry null] at failed
    exact honest_of_mem_argumentPlaces hp typeName message failed

/-- Nulls and empty lists for a type that is not registered, and after them a number for a point. -/
theorem coerceArguments_violation_iff_stops :
    let days : ArgumentDefinition := { name := "days", type := .list (.list (.named "DateTime")) }
    let stops : ArgumentDefinition := { name := "stops", type := .list (.named "PointInput") }
    let supplied : List Argument :=
      [{ name := "stops", value := .list [.null, .int 7] },
        { name := "days", value := .list [.null, .list []] }]
    (∃ message, coerceArguments standard [days, stops] supplied =
      .error (.contractViolation "PointInput" message)) ∧
    Hollow days.type (.list [.null, .list []]) ∧
    ∀ typeName message, bind standard supplied days ≠ .error (.contractViolation typeName message) := by
  intro days stops supplied
  have hollow : Hollow days.type (.list [.null, .list []]) := by
    intro literal hm
    simp only [List.mem_cons, List.not_mem_nil, or_false] at hm
    rcases hm with rfl | rfl
    · trivial
    · exact nofun
  have point : Place.Misuses ⟨"PointInput", .int 7, none⟩ :=
    .geometry (.inr ⟨.point, rfl⟩) nofun nofun
  obtain ⟨violation, spared⟩ := coerceArguments_violation_iff [days, stops] supplied
  refine ⟨(violation "PointInput").mpr
    ⟨[⟨"DateTime", .null, none⟩, ⟨"PointInput", .null, none⟩], _, [], rfl, ?_, point, rfl⟩, hollow, ?_⟩
  · intro earlier hm
    simp only [List.mem_cons, List.not_mem_nil, or_false] at hm
    rcases hm with rfl | rfl <;> rfl
  · refine spared standard days ?_
    rintro literal ⟨⟩
    exact hollow

end SpatialQuery.Binding
