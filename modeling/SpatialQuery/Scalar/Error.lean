import SpatialQuery.Validation.Error

namespace SpatialQuery

inductive CoercionError where
  /-- A value is missing where one is needed, or a literal has a shape that the type never has. -/
  | contractViolation (typeName message : String)
  /-- The value breaks a rule of the type. -/
  | data (typeName message : String)
  deriving DecidableEq, Repr

namespace CoercionError

def typeName : CoercionError → String
  | .contractViolation name _ => name
  | .data name _ => name

def isData : CoercionError → Bool
  | .data _ _ => true
  | .contractViolation _ _ => false

/-- The text for a reader; that of a broken contract names the type. -/
def toString : CoercionError → String
  | .contractViolation name message => s!"{name}: {message}"
  | .data _ message => message

instance : ToString CoercionError := ⟨toString⟩

/-- The report of bad data at a location, which also names the type; a broken contract has none. -/
def report? (error : CoercionError) (location : Option Location) : Option ValidationError :=
  match error with
  | .contractViolation _ _ => none
  | .data name message =>
    some (({ message, locations := location.toList : ValidationError }).withExtension "type"
      (.string name))

end CoercionError
end SpatialQuery
