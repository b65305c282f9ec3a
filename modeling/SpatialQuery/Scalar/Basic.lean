import SpatialQuery.Scalar.Error
import SpatialQuery.Value

/-! Scalar types. A value comes as a literal, as data from outside or serialized, or as a runtime value;
a scalar type converts between these. -/
namespace SpatialQuery

abbrev Coerced (α : Type) : Type := Except CoercionError α

structure Scalar where
  name : String
  /-- Whether the type can represent something; asking about nothing breaks the contract. -/
  isInstance : Option Instance → Coerced Bool
  /-- From a literal to a runtime value; null is absence. -/
  parseLiteral : Literal → Coerced (Option Value)
  /-- From outside data to a literal. -/
  parseValue : Option Value → Coerced Literal
  /-- From a runtime value or serialized data to a literal. -/
  parseResult : Option Value → Coerced Literal
  /-- From a runtime value to serialized data. -/
  serialize : Option Value → Coerced (Option Value)
  /-- From serialized or outside data to a runtime value. -/
  deserialize : Option Value → Coerced (Option Value)

namespace Scalar

/-- What is asked to be an instance must be there. -/
def requireInstance (typeName : String) : Option Instance → Coerced Instance
  | some inst => .ok inst
  | none => .error (.contractViolation typeName "is_instance_of requires a value, got none")

/-- The value that is there, null not being one. -/
def present (value : Option Value) : Option Value := value.filter (!·.isNull)

/-- The refusal of a value that a type cannot have. -/
def cannotRepresent (typeName : String) (value : Value) : CoercionError :=
  .data typeName s!"{typeName} cannot represent {value.describe} value"

/-- The refusal of a literal where only an object or null may stand. -/
def expectsObject (typeName : String) (literal : Literal) : CoercionError :=
  .contractViolation typeName
    s!"parse_literal expects an object literal, got {literal.kind.word}"

end Scalar
end SpatialQuery
