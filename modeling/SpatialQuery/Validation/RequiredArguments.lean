import Std.Data.HashMap.Lemmas
import SpatialQuery.Schema.TypeSystem
import SpatialQuery.Validation.Error

/-! The rule that every required argument is supplied with something other than null. It looks only at
presence: whether a literal fits its type is not asked here. -/
namespace SpatialQuery.RequiredArguments

def specification : String := "https://spec.graphql.org/October2021/#sec-Required-Arguments"

def identify (error : ValidationError) : Site → ValidationError
  | .field parentType name =>
    (error.withExtension "type" (.string parentType)).withExtension "field" (.string name)
  | .directive name => error.withExtension "directive" (.string name)

/-- The error for a required argument that is missing at a site. -/
def missing (definition : ArgumentDefinition) (site : Site) (location : Location) :
    ValidationError :=
  let error := identify { message := definition.missingMessage, locations := [location] } site
  (error.withExtension "argument" (.string definition.name)).withExtension "specifiedBy"
    (.string specification)

/-- The values of arguments by name. Where a name is repeated, its first value stays. -/
def provided (supplied : List Argument) : Std.HashMap String Literal :=
  supplied.foldl (fun values argument => values.insertIfNew argument.name argument.value) ∅

private theorem getElem?_foldl_insertIfNew (supplied : List Argument)
    (values : Std.HashMap String Literal) (name : String) :
    (supplied.foldl (fun values argument => values.insertIfNew argument.name argument.value)
      values)[name]? =
      values[name]?.or ((supplied.find? (·.name == name)).map (·.value)) := by
  induction supplied generalizing values with
  | nil => simp
  | cons argument rest ih =>
    rw [List.foldl_cons, ih, List.find?_cons, Std.HashMap.getElem?_insertIfNew]
    cases same : argument.name == name with
    | false => simp
    | true =>
      have here : values[name]? = values[argument.name]? := by rw [eq_of_beq same]
      by_cases known : argument.name ∈ values
      · simp [known, here]
      · simp [known, here]

/-- The value that stands under a name is that of the first argument of the name. -/
theorem getElem?_provided (supplied : List Argument) (name : String) :
    (provided supplied)[name]? = (supplied.find? (·.name == name)).map (·.value) := by
  rw [provided, getElem?_foldl_insertIfNew, Std.HashMap.getElem?_empty, Option.none_or]

/-- Whether the first argument of a name is there and not null. -/
def isSupplied (supplied : List Argument) (name : String) : Bool :=
  (provided supplied)[name]?.any (!·.isNull)

theorem isSupplied_eq_find? (supplied : List Argument) (name : String) :
    isSupplied supplied name = (supplied.find? (·.name == name)).any (!·.value.isNull) := by
  rw [isSupplied, getElem?_provided, Option.any_map]

def checkArguments (site : Site) (location : Location) (supplied : List Argument)
    (definitions : List ArgumentDefinition) (errors : Array ValidationError) :
    Array ValidationError :=
  definitions.foldl (fun errors definition =>
    if definition.isRequired && !isSupplied supplied definition.name then
      errors.push (missing definition site location)
    else errors) errors

/-- A site that the type system does not know has no errors. -/
def checkSite (system : TypeSystem) (site : Site) (location : Location) (supplied : List Argument)
    (errors : Array ValidationError) : Array ValidationError :=
  match system.arguments site with
  | some definitions => checkArguments site location supplied definitions errors
  | none => errors

def checkDirectives (system : TypeSystem) (directives : List Directive)
    (errors : Array ValidationError) : Array ValidationError :=
  directives.foldl (fun errors directive =>
    checkSite system (.directive directive.name) directive.location directive.arguments errors) errors

/-- Without a parent type a field is no site, but its directives are. -/
def checkField (system : TypeSystem) (parentType : Option String) (name : String)
    (location : Location) (supplied : List Argument) (errors : Array ValidationError) :
    Array ValidationError :=
  match parentType with
  | some parentType => checkSite system (.field parentType name) location supplied errors
  | none => errors

/-- The type whose fields are selected inside a field. -/
def typeInside (system : TypeSystem) (parentType : Option String) (name : String) : Option String :=
  parentType >>= fun parentType => (system.fieldType parentType name).map TypeRef.namedType

mutual

def checkSelection (system : TypeSystem) (parentType : Option String)
    (errors : Array ValidationError) : Selection → Array ValidationError
  | .field name arguments directives selections location =>
    let errors := checkField system parentType name location arguments errors
    let errors := checkDirectives system directives errors
    checkSelections system (typeInside system parentType name) errors selections
  | .inlineFragment typeCondition directives selections _ =>
    let errors := checkDirectives system directives errors
    checkSelections system (typeCondition.or parentType) errors selections

def checkSelections (system : TypeSystem) (parentType : Option String)
    (errors : Array ValidationError) : List Selection → Array ValidationError
  | [] => errors
  | selection :: rest =>
    checkSelections system parentType (checkSelection system parentType errors selection) rest

end

def checkOperation (system : TypeSystem) (errors : Array ValidationError) (operation : Operation) :
    Array ValidationError :=
  checkSelections system (system.rootType operation.kind)
    (checkDirectives system operation.directives errors) operation.selections

/-- Adds the errors of a document to those found before. -/
def check (system : TypeSystem) (document : Document) (errors : Array ValidationError) :
    Array ValidationError :=
  document.operations.foldl (checkOperation system) errors

end SpatialQuery.RequiredArguments
