import SpatialQuery.Geometry.Basic

namespace SpatialQuery

inductive Value where
  /-- Data from outside or serialized, and what the primitive types have as values. -/
  | json (value : Json)
  | geometry (value : Geometry)
  /-- An argument of a list type. -/
  | list (items : List Value)

namespace Value

def isNull : Value → Bool
  | .json j => j.isNull
  | _ => false

def json? : Value → Option Json
  | .json j => some j
  | _ => none

def geometry? : Value → Option Geometry
  | .geometry g => some g
  | _ => none

def describe : Value → String
  | .json .null => "null"
  | .json (.bool _) => "boolean"
  | .json (.number _) => "number"
  | .json (.string _) => "string"
  | .json (.array _) => "array"
  | .json (.object _) => "object"
  | .geometry _ => "geometry"
  | .list _ => "list"

end Value

inductive Instance where
  | literal (literal : Literal)
  | value (value : Value)

end SpatialQuery
