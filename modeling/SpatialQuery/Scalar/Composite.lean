import SpatialQuery.Literal.Printer
import SpatialQuery.Scalar.GeometryInput

/-! Bad data for one candidate is left to the next, and a broken contract ends the search. If all refuse,
the refusal of the candidate whose kind the input claims is reported. -/
namespace SpatialQuery

structure Composite where
  candidates : List Scalar

namespace Composite

open SpatialQuery.Geometry (Kind typeField)

def name : String := "Geometry"

def standard : Composite := ⟨Kind.all.map GeometryInput.scalar⟩

def describe (composite : Composite) : String :=
  let quoted := composite.candidates.map fun candidate =>
    String.ofList (Literal.quoting.quote candidate.name.toList)
  "GeometryScalar \x7b candidates: [" ++ ", ".intercalate quoted ++ "] \x7d"

def noMatch (what : String) : CoercionError :=
  .data name s!"{what} does not match any supported geometry kind"

/-- The first conclusive outcome among candidates: a success or a broken contract. Else the first
refusal of a candidate for the declared kind, and else the error given for no match. -/
def firstAccepting {α : Type} (declared : Option Kind) (attempt : Scalar → Coerced α)
    (otherwise : CoercionError) : List Scalar → Coerced α
  | [] => .error otherwise
  | candidate :: rest =>
    match attempt candidate with
    | .ok result => .ok result
    | .error (.contractViolation typeName message) => .error (.contractViolation typeName message)
    | .error refusal =>
      if declared.map Kind.inputTypeName = some candidate.name then
        firstAccepting none attempt refusal rest
      else
        firstAccepting declared attempt otherwise rest

/-- The kind that a runtime value or an object claims to have. -/
def declaredKind : Value → Option Kind
  | .geometry g => some g.kind
  | .json (.object members) => members.lookup typeField >>= Json.string? >>= Kind.ofName?
  | _ => none

/-- The kind that an object literal claims to have. -/
def declaredKindOfLiteral (literal : Literal) : Option Kind :=
  match literal.field? typeField with
  | some (.string name) | some (.enum name) => Kind.ofName? name
  | _ => none

def isInstance (composite : Composite) (inst : Option Instance) : Coerced Bool := do
  let inst ← Scalar.requireInstance name inst
  composite.candidates.anyM fun candidate => candidate.isInstance (some inst)

def parseLiteral (composite : Composite) (literal : Literal) : Coerced (Option Value) :=
  match literal with
  | .null => .ok none
  | .object fields =>
    firstAccepting (declaredKindOfLiteral (.object fields)) (·.parseLiteral (.object fields))
      (noMatch "object literal") composite.candidates
  | other => .error (Scalar.expectsObject name other)

def offer {α : Type} (composite : Composite) (attempt : Scalar → Option Value → Coerced α)
    (value : Value) : Coerced α :=
  firstAccepting (declaredKind value) (attempt · (some value)) (noMatch value.describe)
    composite.candidates

def parseValue (composite : Composite) (value : Option Value) : Coerced Literal :=
  match Scalar.present value with
  | none => .ok .null
  | some value => composite.offer Scalar.parseValue value

def parseResult (composite : Composite) (value : Option Value) : Coerced Literal :=
  match Scalar.present value with
  | none => .ok .null
  | some value => composite.offer Scalar.parseResult value

/-- An object counts as serialized already; all else goes to the first candidate it is an instance of. -/
def serialize (composite : Composite) (value : Option Value) : Coerced (Option Value) :=
  match Scalar.present value with
  | none => .ok none
  | some (.json (.object members)) => .ok (some (.json (.object members)))
  | some value => do
    match ← composite.candidates.findM? (·.isInstance (some (.value value))) with
    | some candidate => candidate.serialize (some value)
    | none => .error (noMatch value.describe)

def deserialize (composite : Composite) (value : Option Value) : Coerced (Option Value) :=
  match Scalar.present value with
  | none => .ok none
  | some value => composite.offer Scalar.deserialize value

def scalar (composite : Composite) : Scalar where
  name := name
  isInstance := composite.isInstance
  parseLiteral := composite.parseLiteral
  parseValue := composite.parseValue
  parseResult := composite.parseResult
  serialize := composite.serialize
  deserialize := composite.deserialize

end Composite
end SpatialQuery
