import SpatialQuery.Document.Basic
import SpatialQuery.TypeRef.Basic

namespace SpatialQuery

/-- An argument as a field or a directive declares it. -/
structure ArgumentDefinition where
  name : String
  type : TypeRef
  defaultValue : Option Literal := none

/-- A required argument has to be supplied with something other than null. -/
def ArgumentDefinition.isRequired (definition : ArgumentDefinition) : Bool :=
  definition.type.isNonNull && definition.defaultValue.isNone

def ArgumentDefinition.missingMessage (definition : ArgumentDefinition) : String :=
  s!"The argument `{definition.name}` is required."

inductive Site where
  | field (parentType name : String)
  | directive (name : String)
  deriving DecidableEq, Repr

/-- The questions that a type system answers. -/
structure TypeSystem where
  /-- The arguments declared for a site, in order; none if the site is unknown. -/
  arguments : Site → Option (List ArgumentDefinition)
  fieldType : String → String → Option TypeRef
  rootType : OperationKind → Option String

end SpatialQuery
