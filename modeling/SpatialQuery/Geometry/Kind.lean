namespace SpatialQuery.Geometry

inductive Kind where
  | point
  | multiPoint
  | lineString
  | multiLineString
  | polygon
  | multiPolygon
  deriving DecidableEq, Repr

namespace Kind

def all : List Kind := [.point, .multiPoint, .lineString, .multiLineString, .polygon, .multiPolygon]

def name : Kind → String
  | .point => "Point"
  | .multiPoint => "MultiPoint"
  | .lineString => "LineString"
  | .multiLineString => "MultiLineString"
  | .polygon => "Polygon"
  | .multiPolygon => "MultiPolygon"

/-- The name of the scalar type whose values are of one kind. -/
def inputTypeName : Kind → String
  | .point => "PointInput"
  | .multiPoint => "MultiPointInput"
  | .lineString => "LineStringInput"
  | .multiLineString => "MultiLineStringInput"
  | .polygon => "PolygonInput"
  | .multiPolygon => "MultiPolygonInput"

def ofName? (name : String) : Option Kind := all.find? fun kind => kind.name = name

/-- How many levels of lists are around a single position. -/
def depth : Kind → Nat
  | .point => 0
  | .multiPoint | .lineString => 1
  | .multiLineString | .polygon => 2
  | .multiPolygon => 3

theorem mem_all (kind : Kind) : kind ∈ all := by cases kind <;> decide

theorem name_injective {a b : Kind} (same : a.name = b.name) : a = b := by
  cases a <;> cases b <;> simp [name] at same ⊢

theorem inputTypeName_injective {a b : Kind} (same : a.inputTypeName = b.inputTypeName) : a = b := by
  cases a <;> cases b <;> simp [inputTypeName] at same ⊢

theorem ofName?_eq_some_iff {name : String} {kind : Kind} :
    ofName? name = some kind ↔ name = kind.name := by
  constructor
  · intro found
    simp only [ofName?] at found
    have same := List.find?_some found
    exact (of_decide_eq_true same).symm
  · rintro rfl
    cases kind <;> decide

end Kind
end SpatialQuery.Geometry
