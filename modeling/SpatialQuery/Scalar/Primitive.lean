import SpatialQuery.Decimal.Format
import SpatialQuery.Scalar.Basic

/-! The primitive scalar types. Their runtime and serialized values are both JSON, so serializing and
deserializing is the same normalization. -/
namespace SpatialQuery

inductive Primitive where
  | boolean
  /-- Integers of 32 bits with a sign. -/
  | int
  /-- Finite binary64 numbers. -/
  | float
  | string
  /-- Identifiers: strings, and integers as their digits. -/
  | id
  deriving DecidableEq, Repr

namespace Primitive

def all : List Primitive := [.boolean, .int, .float, .string, .id]

def name : Primitive → String
  | .boolean => "Boolean"
  | .int => "Int"
  | .float => "Float"
  | .string => "String"
  | .id => "ID"

/-- An integer of at most 32 bits. -/
def int32? (n : Int64) : Option Json :=
  if -0x80000000 ≤ n.toInt ∧ n.toInt < 0x80000000 then some (.number (.ofInt64 n)) else none

def finite? (x : Binary64) : Option Json := x.finite?.map fun x => .number (.float x)

def idOfInt (n : Int64) : Json := .string (String.ofList (Decimal.ofInt n.toInt))

/-- The value of a literal, if it has the shape and range of the type. -/
def ofLiteral? : Primitive → Literal → Option Json
  | .boolean, .boolean b => some (.bool b)
  | .int, .int n => int32? n
  | .float, .int n => finite? (.ofInt n.toInt)
  | .float, .float x => finite? x
  | .string, .string s => some (.string s)
  | .id, .string s => some (.string s)
  | .id, .int n => some (idOfInt n)
  | _, _ => none

/-- The value of data from outside, in its normal form. -/
def ofJson? : Primitive → Json → Option Json
  | .boolean, .bool b => some (.bool b)
  | .int, .number n => n.int64? >>= int32?
  | .float, .number n => finite? n.toBinary64
  | .string, .string s => some (.string s)
  | .id, .string s => some (.string s)
  | .id, .number n => n.int64?.map idOfInt
  | _, _ => none

def toLiteral (primitive : Primitive) : Json → Literal
  | .bool b => .boolean b
  | .number n => if primitive = .float then .float n.toBinary64 else .int (n.int64?.getD 0)
  | .string s => .string s
  | _ => .null

def normalize (primitive : Primitive) (value : Value) : Coerced Json :=
  match value.json? >>= primitive.ofJson? with
  | some json => .ok json
  | none => .error (Scalar.cannotRepresent primitive.name value)

def isInstance (primitive : Primitive) (inst : Option Instance) : Coerced Bool := do
  match ← Scalar.requireInstance primitive.name inst with
  | .literal literal => return literal.isNull || (primitive.ofLiteral? literal).isSome
  | .value value => return value.isNull || (value.json? >>= primitive.ofJson?).isSome

def parseLiteral (primitive : Primitive) (literal : Literal) : Coerced (Option Value) :=
  if literal.isNull then .ok none
  else match primitive.ofLiteral? literal with
    | some json => .ok (some (.json json))
    | none => .error (.data primitive.name
        s!"{primitive.name} cannot parse {literal.kind.word} literal")

def coerce (primitive : Primitive) (value : Option Value) : Coerced (Option Value) :=
  match Scalar.present value with
  | none => .ok none
  | some value => do return some (.json (← primitive.normalize value))

def literalOf (primitive : Primitive) (value : Option Value) : Coerced Literal :=
  match Scalar.present value with
  | none => .ok .null
  | some value => do return primitive.toLiteral (← primitive.normalize value)

def scalar (primitive : Primitive) : Scalar where
  name := primitive.name
  isInstance := primitive.isInstance
  parseLiteral := primitive.parseLiteral
  parseValue := primitive.literalOf
  parseResult := primitive.literalOf
  serialize := primitive.coerce
  deserialize := primitive.coerce

end Primitive
end SpatialQuery
