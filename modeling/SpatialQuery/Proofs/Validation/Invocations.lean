import SpatialQuery.Validation.Validator

/-! The errors of a document, read off the places where it supplies arguments. A field's parent type
depends on its ancestors alone. -/
namespace SpatialQuery.RequiredArguments

/-- What encloses a place in a document. -/
inductive Ancestor where
  | operation (kind : OperationKind)
  | field (name : String)
  | inlineFragment (typeCondition : Option String)
  deriving DecidableEq, Repr

/-- The type whose fields stand inside a chain of ancestors, the innermost first. A fragment without
a condition has the type of what is around it. -/
def parentType (system : TypeSystem) : List Ancestor → Option String
  | [] => none
  | .operation kind :: _ => system.rootType kind
  | .field name :: outer =>
    match parentType system outer with
    | some parent => (system.fieldType parent name).map TypeRef.namedType
    | none => none
  | .inlineFragment (some condition) :: _ => some condition
  | .inlineFragment none :: outer => parentType system outer

/-- What arguments are supplied to. -/
inductive Callee where
  | field (name : String)
  | directive (name : String)
  deriving DecidableEq, Repr

/-- A place where a document supplies arguments, as it is written. -/
structure Invocation where
  /-- All that encloses the place, the innermost first. -/
  ancestors : List Ancestor
  callee : Callee
  arguments : List Argument
  location : Location

namespace Invocation

/-- A field is a site of its parent type, and no site without one. -/
def site? (system : TypeSystem) (invocation : Invocation) : Option Site :=
  match invocation.callee with
  | .field name => (parentType system invocation.ancestors).map (.field · name)
  | .directive name => some (.directive name)

/-- Whether the first argument of a name is null, or there is none. -/
def lacks (invocation : Invocation) (name : String) : Bool :=
  (invocation.arguments.find? (·.name == name)).all (·.value.isNull)

/-- The facts that tell a site in an error. -/
def facts : Site → List (String × Json)
  | .field parent name => [("type", .string parent), ("field", .string name)]
  | .directive name => [("directive", .string name)]

/-- The error for an argument that a site requires. -/
def report (invocation : Invocation) (site : Site) (argument : String) : ValidationError where
  message := s!"The argument `{argument}` is required."
  locations := [invocation.location]
  extensions := facts site ++ [("argument", .string argument), ("specifiedBy", .string specification)]

/-- One error for each argument of a non-null type without a default that is lacking, in the order of
the definitions. -/
def lackErrors (invocation : Invocation) (site : Site) (definitions : List ArgumentDefinition) :
    List ValidationError :=
  (definitions.filter fun definition =>
      definition.type.isNonNull && definition.defaultValue.isNone &&
        invocation.lacks definition.name).map
    fun definition => invocation.report site definition.name

/-- The errors of a place. There are none where it is no site, or one that the system does not know. -/
def errors (system : TypeSystem) (invocation : Invocation) : List ValidationError :=
  match invocation.site? system with
  | none => []
  | some site =>
    match system.arguments site with
    | none => []
    | some definitions => invocation.lackErrors site definitions

end Invocation

def directiveInvocations (ancestors : List Ancestor) (directives : List Directive) :
    List Invocation :=
  directives.map fun directive =>
    ⟨ancestors, .directive directive.name, directive.arguments, directive.location⟩

mutual

/-- The places in a selection. Its directives stand beside it, not inside. -/
def selectionInvocations (ancestors : List Ancestor) : Selection → List Invocation
  | .field name arguments directives selections location =>
    ⟨ancestors, .field name, arguments, location⟩ ::
      (directiveInvocations ancestors directives ++
        selectionsInvocations (.field name :: ancestors) selections)
  | .inlineFragment typeCondition directives selections _ =>
    directiveInvocations ancestors directives ++
      selectionsInvocations (.inlineFragment typeCondition :: ancestors) selections

def selectionsInvocations (ancestors : List Ancestor) : List Selection → List Invocation
  | [] => []
  | selection :: rest =>
    selectionInvocations ancestors selection ++ selectionsInvocations ancestors rest

end

def operationInvocations (operation : Operation) : List Invocation :=
  directiveInvocations [] operation.directives ++
    selectionsInvocations [.operation operation.kind] operation.selections

/-- All places of a document where arguments are supplied, in document order. -/
def invocations (document : Document) : List Invocation :=
  document.operations.flatMap operationInvocations

private theorem missing_eq_report (invocation : Invocation) (definition : ArgumentDefinition)
    (site : Site) :
    missing definition site invocation.location = invocation.report site definition.name := by
  cases site with
  | field parent name => rfl
  | directive name => rfl

private theorem lacks_eq_not_isSupplied (invocation : Invocation) (name : String) :
    invocation.lacks name = !isSupplied invocation.arguments name := by
  rw [Invocation.lacks, isSupplied_eq_find?]
  cases invocation.arguments.find? (·.name == name) with
  | none => rfl
  | some argument => simp

/-- A fold of steps that each add errors at the end adds them all there, in the order of the steps. -/
theorem foldl_toList {α : Type} {add : Array ValidationError → α → Array ValidationError}
    {found : α → List ValidationError} {as : List α}
    (h : ∀ a ∈ as, ∀ errors, (add errors a).toList = errors.toList ++ found a)
    (errors : Array ValidationError) :
    (as.foldl add errors).toList = errors.toList ++ as.flatMap found := by
  induction as generalizing errors with
  | nil => simp
  | cons a as ih =>
    rw [List.foldl_cons, ih fun b hb => h b (by simp [hb]), h a (by simp), List.flatMap_cons,
      List.append_assoc]

theorem checkArguments_toList (site : Site) (invocation : Invocation)
    (definitions : List ArgumentDefinition) (errors : Array ValidationError) :
    (checkArguments site invocation.location invocation.arguments definitions errors).toList =
      errors.toList ++ invocation.lackErrors site definitions := by
  unfold checkArguments Invocation.lackErrors
  induction definitions generalizing errors with
  | nil => simp
  | cons definition rest ih =>
    rw [List.foldl_cons, ih, List.filter_cons, lacks_eq_not_isSupplied, ArgumentDefinition.isRequired]
    split
    · simp [missing_eq_report]
    · rfl

theorem checkSite_toList (system : TypeSystem) {site : Site} (invocation : Invocation)
    (h : invocation.site? system = some site) (errors : Array ValidationError) :
    (checkSite system site invocation.location invocation.arguments errors).toList =
      errors.toList ++ invocation.errors system := by
  simp only [checkSite, Invocation.errors, h]
  cases system.arguments site with
  | none => simp
  | some definitions => exact checkArguments_toList site invocation definitions errors

theorem checkDirectives_toList (system : TypeSystem) (ancestors : List Ancestor)
    (directives : List Directive) (errors : Array ValidationError) :
    (checkDirectives system directives errors).toList =
      errors.toList ++ (directiveInvocations ancestors directives).flatMap (·.errors system) := by
  rw [directiveInvocations, List.flatMap_map]
  apply foldl_toList
  intro directive _ errors
  exact checkSite_toList system
    ⟨ancestors, .directive directive.name, directive.arguments, directive.location⟩ rfl errors

theorem checkField_toList (system : TypeSystem) (ancestors : List Ancestor) (name : String)
    (location : Location) (supplied : List Argument) (errors : Array ValidationError) :
    (checkField system (parentType system ancestors) name location supplied errors).toList =
      errors.toList ++ (Invocation.mk ancestors (.field name) supplied location).errors system := by
  have site : (Invocation.mk ancestors (.field name) supplied location).site? system =
      (parentType system ancestors).map (.field · name) := rfl
  cases h : parentType system ancestors with
  | none => simp [checkField, Invocation.errors, site, h]
  | some parent =>
    rw [h] at site
    exact checkSite_toList system _ site errors

/-- The type that is handed down into a field is the one that its ancestors tell. -/
theorem typeInside_parentType (system : TypeSystem) (ancestors : List Ancestor) (name : String) :
    typeInside system (parentType system ancestors) name =
      parentType system (.field name :: ancestors) := by
  rw [parentType, typeInside]
  cases parentType system ancestors <;> rfl

theorem or_parentType (system : TypeSystem) (ancestors : List Ancestor) (condition : Option String) :
    condition.or (parentType system ancestors) =
      parentType system (.inlineFragment condition :: ancestors) := by
  cases condition <;> rfl

mutual

theorem checkSelection_toList (system : TypeSystem) (ancestors : List Ancestor)
    (errors : Array ValidationError) (selection : Selection) :
    (checkSelection system (parentType system ancestors) errors selection).toList =
      errors.toList ++
        (selectionInvocations ancestors selection).flatMap (·.errors system) := by
  cases selection with
  | field name arguments directives selections location =>
    rw [checkSelection, typeInside_parentType, checkSelections_toList, checkDirectives_toList system
      ancestors, checkField_toList]
    simp [selectionInvocations]
  | inlineFragment condition directives selections location =>
    rw [checkSelection, or_parentType, checkSelections_toList, checkDirectives_toList system ancestors]
    simp [selectionInvocations]

theorem checkSelections_toList (system : TypeSystem) (ancestors : List Ancestor)
    (errors : Array ValidationError) (selections : List Selection) :
    (checkSelections system (parentType system ancestors) errors selections).toList =
      errors.toList ++
        (selectionsInvocations ancestors selections).flatMap (·.errors system) := by
  cases selections with
  | nil => simp [checkSelections, selectionsInvocations]
  | cons selection rest =>
    rw [checkSelections, checkSelections_toList, checkSelection_toList]
    simp [selectionsInvocations]

end

theorem checkOperation_toList (system : TypeSystem) (errors : Array ValidationError)
    (operation : Operation) :
    (checkOperation system errors operation).toList =
      errors.toList ++ (operationInvocations operation).flatMap (·.errors system) := by
  have h := checkSelections_toList system [.operation operation.kind]
    (checkDirectives system operation.directives errors) operation.selections
  rw [checkDirectives_toList system []] at h
  rw [checkOperation, operationInvocations, List.flatMap_append, ← List.append_assoc]
  exact h

/-- A check adds to the errors found before those of each place, and nothing else. -/
theorem check_toList (system : TypeSystem) (document : Document) (errors : Array ValidationError) :
    (check system document errors).toList =
      errors.toList ++ (invocations document).flatMap (·.errors system) := by
  rw [invocations, List.flatMap_assoc]
  exact foldl_toList (fun operation _ errors => checkOperation_toList system errors operation) errors

/-- The errors of a document are those of its places in document order, each judged by what the
type system knows of its site; the parent type of a field comes from its chain of ancestors. -/
theorem validate_toList (system : TypeSystem) (document : Document) :
    (document.validate system).toList = (invocations document).flatMap (·.errors system) := by
  have h := check_toList system document #[]
  rw [List.nil_append] at h
  exact h

end SpatialQuery.RequiredArguments
