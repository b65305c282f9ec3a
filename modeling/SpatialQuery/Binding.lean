import SpatialQuery.Scalar.Registry
import SpatialQuery.Schema.TypeSystem

namespace SpatialQuery.Binding

def unregistered (name : String) : CoercionError :=
  .contractViolation name "no scalar is registered under this name"

def nullElement (type : TypeRef) : CoercionError :=
  .data type.namedType "list elements of a non-null type must not be null"

/-- The value of a list's element; null is one unless the type forbids it. -/
def element (type : TypeRef) : Option Value → Coerced Value
  | some value => .ok value
  | none => if type.isNonNull then .error (nullElement type) else .ok (.json .null)

/-- The value of a literal for a type; null has none. What is not a list stands for the list of it. -/
def coerceLiteral (registry : Registry) : TypeRef → Literal → Coerced (Option Value)
  | _, .null => .ok none
  | .nonNull inner, literal => coerceLiteral registry inner literal
  | .list item, .list literals => do
    return some (.list (← literals.mapM fun literal => do
      element item (← coerceLiteral registry item literal)))
  | .list item, literal => do
    return some (.list [← element item (← coerceLiteral registry item literal)])
  | .named name, literal =>
    match registry.get? name with
    | some scalar => scalar.parseLiteral literal
    | none => .error (unregistered name)

/-- The literal for an argument: the first supplied under its name, else its default value. -/
def select? (definition : ArgumentDefinition) (supplied : List Argument) : Option Literal :=
  ((supplied.find? (·.name == definition.name)).map (·.value)).or definition.defaultValue

def bind (registry : Registry) (supplied : List Argument) (definition : ArgumentDefinition) :
    Coerced (String × Option Value) := do
  let value ← match select? definition supplied with
    | some literal => coerceLiteral registry definition.type literal
    | none => pure none
  if value.isNone && definition.type.isNonNull then
    .error (.data definition.type.namedType definition.missingMessage)
  else
    return (definition.name, value)

/-- The values of all arguments, in the order of their definitions. -/
def coerceArguments (registry : Registry) (definitions : List ArgumentDefinition)
    (supplied : List Argument) : Coerced (List (String × Option Value)) :=
  definitions.mapM (bind registry supplied)

end SpatialQuery.Binding
