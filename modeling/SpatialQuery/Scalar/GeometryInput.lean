import SpatialQuery.Geometry.Nested
import SpatialQuery.Scalar.Basic

namespace SpatialQuery

namespace GeometryInput

open SpatialQuery.Geometry (Kind Nested typeField coordinatesField sridField)

/-- What keeps an object from being a geometry of a kind. -/
inductive Flaw where
  | typeMissing (expected : Kind)
  | typeDiffers (found : String) (expected : Kind)
  /-- With the kind of literal that was found. -/
  | typeNoString (found : Option Literal.Kind)
  | coordinatesMissing
  | nested (flaw : Nested.Flaw)
  | geometry (flaw : Geometry.Flaw)
  | srid
  deriving DecidableEq, Repr

def Flaw.message : Flaw → String
  | .typeMissing expected => s!"The `{typeField}` field is missing, expected `{expected.name}`."
  | .typeDiffers found expected =>
    s!"The `{typeField}` field is `{found}`, expected `{expected.name}`."
  | .typeNoString none => s!"The `{typeField}` field must be a string."
  | .typeNoString (some found) => s!"The `{typeField}` field must be a string, found {found.word}."
  | .coordinatesMissing => s!"The `{coordinatesField}` field is missing."
  | .nested flaw => flaw.message
  | .geometry flaw => flaw.message
  | .srid => s!"The `{sridField}` field must be a 32-bit integer."

/-- The type field must name the kind. -/
def checkType (kind : Kind) : Option String → Except Flaw Unit
  | none => .error (.typeMissing kind)
  | some name => if name = kind.name then .ok () else .error (.typeDiffers name kind)

/-- A spatial reference id is an integer of 32 bits. -/
def sridOf : Option Int64 → Except Flaw Int32
  | none => .error .srid
  | some n => if -0x80000000 ≤ n.toInt ∧ n.toInt < 0x80000000 then .ok n.toInt32 else .error .srid

/-- The geometry of a kind with coordinates that may be missing. -/
def build (kind : Kind) (nested : Option Nested) (srid : Option Int32) : Except Flaw Geometry := do
  let some nested := nested | .error .coordinatesMissing
  let coordinates ← (nested.coordinates kind).mapError .nested
  let geometry ← (Geometry.ofCoordinates kind coordinates).mapError .geometry
  return geometry.withSrid srid

/-- The text of the type field of a literal; null counts as missing. -/
def typeOfLiteral (literal : Literal) : Except Flaw (Option String) :=
  match literal.field? typeField with
  | some (.string name) | some (.enum name) => .ok (some name)
  | some .null | none => .ok none
  | some other => .error (.typeNoString (some other.kind))

def nestedOfLiteral (literal : Literal) : Except Flaw (Option Nested) :=
  match literal.field? coordinatesField with
  | some .null | none => .ok none
  | some value => do return some (← (Nested.ofLiteral value).mapError .nested)

def sridOfLiteral (literal : Literal) : Except Flaw (Option Int32) :=
  match literal.field? sridField with
  | some .null | none => .ok none
  | some (.int n) => do return some (← sridOf (some n))
  | some _ => do return some (← sridOf none)

def geometryOfLiteral (kind : Kind) (literal : Literal) : Except Flaw Geometry := do
  checkType kind (← typeOfLiteral literal)
  let nested ← nestedOfLiteral literal
  let srid ← sridOfLiteral literal
  build kind nested srid

/-- The text of the type field of an object; null counts as missing. -/
def typeOfMembers (members : List (String × Json)) : Except Flaw (Option String) :=
  match members.lookup typeField with
  | some (.string name) => .ok (some name)
  | some .null | none => .ok none
  | some _ => .error (.typeNoString none)

def nestedOfMembers (members : List (String × Json)) : Except Flaw (Option Nested) :=
  match members.lookup coordinatesField with
  | some .null | none => .ok none
  | some value => do return some (← (Nested.ofJson value).mapError .nested)

def sridOfMembers (members : List (String × Json)) : Except Flaw (Option Int32) :=
  match members.lookup sridField with
  | some .null | none => .ok none
  | some (.number n) => do return some (← sridOf n.int64?)
  | some _ => do return some (← sridOf none)

def geometryOfMembers (kind : Kind) (members : List (String × Json)) : Except Flaw Geometry := do
  checkType kind (← typeOfMembers members)
  let nested ← nestedOfMembers members
  let srid ← sridOfMembers members
  build kind nested srid

/-- A flaw as bad data for the type of a kind. -/
def dataError (kind : Kind) (flaw : Flaw) : CoercionError := .data kind.inputTypeName flaw.message

def isInstance (kind : Kind) (inst : Option Instance) : Coerced Bool := do
  match ← Scalar.requireInstance kind.inputTypeName inst with
  | .literal .null | .literal (.object _) => return true
  | .literal _ => return false
  | .value (.geometry g) => return g.kind = kind
  | .value value => return value.isNull

def parseLiteral (kind : Kind) (literal : Literal) : Coerced (Option Value) :=
  match literal with
  | .null => .ok none
  | .object fields => do
    return some (.geometry (← (geometryOfLiteral kind (.object fields)).mapError (dataError kind)))
  | other => .error (Scalar.expectsObject kind.inputTypeName other)

def literalOf (kind : Kind) (value : Option Value) : Coerced Literal :=
  match Scalar.present value with
  | none => .ok .null
  | some (.geometry g) =>
    if g.kind = kind then .ok g.toLiteral
    else .error (Scalar.cannotRepresent kind.inputTypeName (.geometry g))
  | some (.json (.object members)) => do
    return (← (geometryOfMembers kind members).mapError (dataError kind)).toLiteral
  | some other => .error (Scalar.cannotRepresent kind.inputTypeName other)

/-- An object counts as serialized already and is left as it is. -/
def serialize (kind : Kind) (value : Option Value) : Coerced (Option Value) :=
  match Scalar.present value with
  | none => .ok none
  | some (.json (.object members)) => .ok (some (.json (.object members)))
  | some (.geometry g) =>
    if g.kind = kind then .ok (some (.json g.toJson))
    else .error (Scalar.cannotRepresent kind.inputTypeName (.geometry g))
  | some other => .error (Scalar.cannotRepresent kind.inputTypeName other)

def deserialize (kind : Kind) (value : Option Value) : Coerced (Option Value) :=
  match Scalar.present value with
  | none => .ok none
  | some (.geometry g) =>
    if g.kind = kind then .ok (some (.geometry g))
    else .error (Scalar.cannotRepresent kind.inputTypeName (.geometry g))
  | some (.json (.object members)) => do
    return some (.geometry (← (geometryOfMembers kind members).mapError (dataError kind)))
  | some other => .error (Scalar.cannotRepresent kind.inputTypeName other)

def scalar (kind : Kind) : Scalar where
  name := kind.inputTypeName
  isInstance := isInstance kind
  parseLiteral := parseLiteral kind
  parseValue := literalOf kind
  parseResult := literalOf kind
  serialize := serialize kind
  deserialize := deserialize kind

end GeometryInput
end SpatialQuery
