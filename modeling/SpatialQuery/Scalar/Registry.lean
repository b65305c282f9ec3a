import Std.Data.ExtTreeMap
import SpatialQuery.Scalar.Composite
import SpatialQuery.Scalar.Primitive

namespace SpatialQuery

open Std (ExtTreeMap)

structure Registry where
  scalars : ExtTreeMap String Scalar
  named : ∀ (name : String) (scalar : Scalar), scalars[name]? = some scalar → scalar.name = name

namespace Registry

def empty : Registry := ⟨∅, by simp⟩

def register (registry : Registry) (scalar : Scalar) : Registry where
  scalars := registry.scalars.insert scalar.name scalar
  named name found lookup := by
    rw [ExtTreeMap.getElem?_insert] at lookup
    split at lookup
    · rename_i same
      rw [Option.some.inj lookup.symm]
      exact Std.LawfulEqCmp.eq_of_compare same
    · exact registry.named name found lookup

def registerAll (registry : Registry) (scalars : List Scalar) : Registry :=
  scalars.foldl register registry

def get? (registry : Registry) (name : String) : Option Scalar := registry.scalars[name]?

theorem get?_register (registry : Registry) (scalar : Scalar) (name : String) :
    (registry.register scalar).get? name =
      if scalar.name = name then some scalar else registry.get? name := by
  simp [get?, register, ExtTreeMap.getElem?_insert]

/-- Registers a scalar type, and gives the one that stood under its name before. -/
def exchange (registry : Registry) (scalar : Scalar) : Option Scalar × Registry :=
  (registry.get? scalar.name, registry.register scalar)

def contains (registry : Registry) (name : String) : Bool := registry.scalars.contains name

/-- All names, sorted. -/
def names (registry : Registry) : List String := registry.scalars.keys

/-- All scalar types, sorted by name. -/
def toList (registry : Registry) : List Scalar := registry.scalars.values

def describe (registry : Registry) : String :=
  let quoted := registry.names.map fun name => String.ofList (Literal.quoting.quote name.toList)
  "\x7b" ++ ", ".intercalate quoted ++ "\x7d"

def primitives : List Scalar := Primitive.all.map Primitive.scalar

/-- The types of single geometry kinds and their composite. -/
def geometries : List Scalar :=
  Geometry.Kind.all.map GeometryInput.scalar ++ [Composite.standard.scalar]

def withPrimitives (registry : Registry) : Registry := registry.registerAll primitives

def withGeometries (registry : Registry) : Registry := registry.registerAll geometries

def standard : Registry := empty.withPrimitives.withGeometries

end Registry
end SpatialQuery
