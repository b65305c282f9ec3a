import SpatialQuery.Proofs.Binding.Coercing
import SpatialQuery.Proofs.Scalar.Parsing
import SpatialQuery.Proofs.Scalar.Refusals
import SpatialQuery.Proofs.Validation.Invocations

namespace SpatialQuery.Binding

open Registry (standard)
open RequiredArguments (checkArguments isSupplied isSupplied_eq_find? missing)

variable {site : Site} {location : Location} {supplied : List Argument}
  {definition : ArgumentDefinition} {type : TypeRef} {literal : Literal}

/-- What the rule reports of one definition at a site. -/
def reported (site : Site) (location : Location) (supplied : List Argument)
    (definition : ArgumentDefinition) : List ValidationError :=
  (checkArguments site location supplied [definition] #[]).toList

theorem reported_eq (site : Site) (location : Location) (supplied : List Argument)
    (definition : ArgumentDefinition) :
    reported site location supplied definition =
      if definition.isRequired && !isSupplied supplied definition.name then
        [missing definition site location]
      else [] := by
  rw [reported, checkArguments, List.foldl_cons, List.foldl_nil]
  split <;> rfl

/-- The rule looks at each definition by itself. -/
theorem checkArguments_eq_flatMap (definitions : List ArgumentDefinition)
    (errors : Array ValidationError) :
    (checkArguments site location supplied definitions errors).toList =
      errors.toList ++ definitions.flatMap (reported site location supplied) := by
  refine RequiredArguments.foldl_toList ?_ errors
  intro definition _ errors
  rw [reported_eq]
  split
  · rw [Array.toList_push]
  · rw [List.append_nil]

theorem message_of_mem_reported {error : ValidationError}
    (h : error ∈ reported site location supplied definition) :
    error.message = definition.missingMessage := by
  rw [reported_eq] at h
  split at h
  · rw [List.mem_singleton.mp h]
    cases site <;> rfl
  · cases h

/-- Nothing is selected for an argument, or null is. -/
def Unset (supplied : List Argument) (definition : ArgumentDefinition) : Prop :=
  select? definition supplied = none ∨ select? definition supplied = some .null

/-- Of an argument that must not be null, the rule leaves out only null in spite of a default. -/
theorem unset_iff (site : Site) (location : Location) (h : definition.type.isNonNull = true) :
    Unset supplied definition ↔
      reported site location supplied definition ≠ [] ∨
        definition.defaultValue.isSome = true ∧ select? definition supplied = some .null := by
  rw [reported_eq, ArgumentDefinition.isRequired, h, Unset, select?, isSupplied_eq_find?]
  cases definition.defaultValue with
  | some literal => cases supplied.find? (·.name == definition.name) <;> simp
  | none =>
    cases supplied.find? (·.name == definition.name) with
    | none => simp
    | some argument => simp [Literal.isNull_iff]

theorem selected_of_unset (registry : Registry) (h : Unset supplied definition) :
    selected registry supplied definition = .ok none := by
  rcases h with h | h
  · rw [selected, h]
  · rw [selected, h]
    exact coerceLiteral_null registry definition.type

theorem unset_of_selected (h : selected standard supplied definition = .ok none) :
    Unset supplied definition := by
  unfold selected at h
  split at h
  · next literal hl =>
    refine .inr (hl.trans (congrArg some (eq_null_of_coerceLiteral ?_ h)))
    intro name scalar found literal parsed
    exact Scalar.Known.eq_null_of_parseLiteral (.registered found) parsed
  · next hl => exact .inl hl

/-- No literal fails in the words of a missing argument. -/
theorem coerceLiteral_ne_missing (typeName name : String) :
    coerceLiteral standard type literal ≠
      .error (.data typeName s!"The argument `{name}` is required.") := by
  intro h
  apply not_opensOtherwise_missing name
  rcases coerceLiteral_eq_error h with ⟨item, he⟩ | ⟨unknown, ⟨⟩⟩ | ⟨_, scalar, _, found, parsed⟩
  · have opening : OpensOtherwise "list elements of a non-null type must not be null" := by decide
    rw [nullElement, CoercionError.data.injEq] at he
    rw [he.2]
    exact opening
  · exact Scalar.Known.opensOtherwise (.registered found) parsed

theorem bind_eq_missing_iff (typeName name : String) :
    bind standard supplied definition =
        .error (.data typeName s!"The argument `{name}` is required.") ↔
      definition.name = name ∧ definition.type.namedType = typeName ∧
        definition.type.isNonNull = true ∧ Unset supplied definition := by
  have words : (s!"The argument `{name}` is required." = definition.missingMessage) ↔
      definition.name = name := by
    constructor
    · intro same
      unfold ArgumentDefinition.missingMessage at same
      simpa [toString, eq_comm] using same
    · rintro rfl
      rfl
  have parsed : selected standard supplied definition ≠
      .error (.data typeName s!"The argument `{name}` is required.") := by
    unfold selected
    split
    · exact coerceLiteral_ne_missing typeName name
    · exact nofun
  rw [bind_eq_error_iff, CoercionError.data.injEq, words]
  constructor
  · rintro (failed | ⟨absent, nonNull, rfl, rfl⟩)
    · exact absurd failed parsed
    · exact ⟨rfl, rfl, nonNull, unset_of_selected absent⟩
  · rintro ⟨rfl, rfl, nonNull, unset⟩
    exact .inr ⟨selected_of_unset standard unset, nonNull, rfl, rfl⟩

/-- An argument that the rule reports is bound in no registry. -/
theorem bind_of_reported (h : reported site location supplied definition ≠ []) (registry : Registry) :
    bind registry supplied definition =
      .error (.data definition.type.namedType definition.missingMessage) := by
  have nonNull : definition.type.isNonNull = true := by
    rw [reported_eq, ArgumentDefinition.isRequired] at h
    cases hn : definition.type.isNonNull with
    | true => rfl
    | false => simp [hn] at h
  have unset : Unset supplied definition := (unset_iff site location nonNull).mpr (.inl h)
  exact bind_eq_error_iff.mpr (.inr ⟨selected_of_unset registry unset, nonNull, rfl⟩)

theorem coerceArguments_eq_missing_iff (site : Site) (location : Location)
    {definitions : List ArgumentDefinition} (typeName name : String) :
    coerceArguments standard definitions supplied =
        .error (.data typeName s!"The argument `{name}` is required.") ↔
      ∃ before definition after, definitions = before ++ definition :: after ∧
        definition.name = name ∧ definition.type.namedType = typeName ∧
        (∀ earlier ∈ before, ∃ entry, bind standard supplied earlier = .ok entry) ∧
        definition.type.isNonNull = true ∧
        (reported site location supplied definition ≠ [] ∨
          definition.defaultValue.isSome = true ∧ select? definition supplied = some .null) := by
  rw [coerceArguments, Outcome.mapM_eq_error_iff]
  constructor
  · rintro ⟨before, definition, after, rfl, bound, failed⟩
    obtain ⟨same, named, nonNull, unset⟩ := (bind_eq_missing_iff typeName name).mp failed
    exact ⟨before, definition, after, rfl, same, named, bound, nonNull,
      (unset_iff site location nonNull).mp unset⟩
  · rintro ⟨before, definition, after, rfl, same, named, bound, nonNull, missed⟩
    have unset : Unset supplied definition := (unset_iff site location nonNull).mpr missed
    exact ⟨before, definition, after, rfl, bound,
      (bind_eq_missing_iff typeName name).mpr ⟨same, named, nonNull, unset⟩⟩

/-- What the rule reports cannot be bound in any registry, and is reported in the words of binding. In
the standard registry binding fails for a missing argument exactly at the first definition that does
not bind, if it is of a non-null type and the rule reports it or null is selected in spite of a default.
An accepted site where that is not so has no missing arguments. -/
theorem coerceArguments_missing (site : Site) (location : Location)
    (definitions : List ArgumentDefinition) (supplied : List Argument) :
    ((∀ errors, (checkArguments site location supplied definitions errors).toList =
        errors.toList ++ definitions.flatMap (reported site location supplied)) ∧
      ∀ definition ∈ definitions, ∀ error ∈ reported site location supplied definition,
        error.message = s!"The argument `{definition.name}` is required.") ∧
    (checkArguments site location supplied definitions #[] ≠ #[] →
      ∀ registry, ∃ error, coerceArguments registry definitions supplied = .error error) ∧
    (∀ typeName name : String,
      coerceArguments standard definitions supplied =
          .error (.data typeName s!"The argument `{name}` is required.") ↔
        ∃ before definition after, definitions = before ++ definition :: after ∧
          definition.name = name ∧ definition.type.namedType = typeName ∧
          (∀ earlier ∈ before, ∃ entry, bind standard supplied earlier = .ok entry) ∧
          definition.type.isNonNull = true ∧
          (reported site location supplied definition ≠ [] ∨
            definition.defaultValue.isSome = true ∧ select? definition supplied = some .null)) ∧
    (checkArguments site location supplied definitions #[] = #[] →
      (∀ definition ∈ definitions, definition.type.isNonNull = true →
        definition.defaultValue.isSome = true → select? definition supplied ≠ some .null) →
      ∀ typeName name : String, coerceArguments standard definitions supplied ≠
        .error (.data typeName s!"The argument `{name}` is required.")) := by
  have errors : (checkArguments site location supplied definitions #[]).toList =
      definitions.flatMap (reported site location supplied) :=
    checkArguments_eq_flatMap definitions #[]
  refine ⟨⟨checkArguments_eq_flatMap definitions, fun definition _ error => message_of_mem_reported⟩,
    ?fails, coerceArguments_eq_missing_iff site location, ?accepted⟩
  case fails =>
    intro rejected registry
    cases bound : coerceArguments registry definitions supplied with
    | error error => exact ⟨error, rfl⟩
    | ok values =>
      have each := Outcome.exists_mapM_eq_ok_iff.mp ⟨values, bound⟩
      have silent : definitions.flatMap (reported site location supplied) = [] := by
        rw [List.flatMap_eq_nil_iff]
        intro definition hd
        apply Classical.byContradiction
        intro h
        obtain ⟨entry, he⟩ := each definition hd
        rw [bind_of_reported h registry] at he
        cases he
      exact absurd (Array.toList_eq_nil_iff.mp (errors.trans silent)) rejected
  case accepted =>
    intro accepted undone typeName name failed
    obtain ⟨before, definition, after, rfl, _, _, _, nonNull, missed⟩ :=
      (coerceArguments_eq_missing_iff site location typeName name).mp failed
    have hd : definition ∈ before ++ definition :: after := by simp
    rcases missed with h | ⟨default, null⟩
    · rw [accepted] at errors
      exact h (List.flatMap_eq_nil_iff.mp errors.symm definition hd)
    · exact undone definition hd nonNull default null

/-- An identifier that is left out, and a limit that is left to its default. -/
theorem coerceArguments_missing_id :
    let limit : ArgumentDefinition :=
      { name := "limit", type := .nonNull (.named "Int"), defaultValue := some (.int 10) }
    let id : ArgumentDefinition := { name := "id", type := .nonNull (.named "ID") }
    let limited : List Argument := [{ name := "limit", value := .int 5 }]
    let identified : List Argument := [{ name := "id", value := .int 7 }]
    (checkArguments (.field "Query" "cities") .unknown limited [limit, id] #[] ≠ #[] ∧
      ∀ registry, ∃ error, coerceArguments registry [limit, id] limited = .error error) ∧
    checkArguments (.field "Query" "cities") .unknown identified [limit, id] #[] = #[] ∧
      ∀ typeName name : String, coerceArguments standard [limit, id] identified ≠
        .error (.data typeName s!"The argument `{name}` is required.") := by
  intro limit id limited identified
  have rejected : checkArguments (.field "Query" "cities") .unknown limited [limit, id] #[] ≠ #[] :=
    ne_of_apply_ne Array.size (by simp only [checkArguments, isSupplied_eq_find?]; decide)
  have accepted : checkArguments (.field "Query" "cities") .unknown identified [limit, id] #[] = #[] := by
    simp only [checkArguments, isSupplied_eq_find?]
    rfl
  refine ⟨⟨rejected, (coerceArguments_missing _ _ _ _).2.1 rejected⟩, accepted, ?_⟩
  refine (coerceArguments_missing _ _ _ _).2.2.2 accepted ?_
  intro definition hd nonNull default
  simp only [List.mem_cons, List.not_mem_nil, or_false] at hd
  rcases hd with rfl | rfl
  · exact nofun
  · cases default

end SpatialQuery.Binding
