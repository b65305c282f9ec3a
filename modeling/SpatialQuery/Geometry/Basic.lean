import SpatialQuery.Geometry.Kind
import SpatialQuery.Json.Basic
import SpatialQuery.Literal.Basic

namespace SpatialQuery

namespace Geometry

structure Position where
  x : Binary64
  y : Binary64
  deriving DecidableEq, Repr

namespace Position

def isFinite (p : Position) : Bool := p.x.isFinite && p.y.isFinite

/-- Equality with numbers compared by value. -/
def valueEq (p q : Position) : Bool := p.x.valueEq q.x && p.y.valueEq q.y

end Position

/-- Coordinates by how deep a position stands in them. -/
inductive Coordinates where
  | position (p : Position)
  | path (ps : List Position)
  | paths (pss : List (List Position))
  | groups (psss : List (List (List Position)))
  deriving DecidableEq, Repr

namespace Coordinates

def depth : Coordinates → Nat
  | .position _ => 0
  | .path _ => 1
  | .paths _ => 2
  | .groups _ => 3

def positions : Coordinates → List Position
  | .position p => [p]
  | .path ps => ps
  | .paths pss => pss.flatten
  | .groups psss => psss.flatten.flatten

/-- Writes coordinates as nested lists, a position being a list of two numbers. -/
def nest {α : Type} (number : Binary64 → α) (list : List α → α) : Coordinates → α
  | .position p => ofPosition p
  | .path ps => ofPath ps
  | .paths pss => list (pss.map ofPath)
  | .groups psss => list (psss.map fun pss => list (pss.map ofPath))
where
  ofPosition (p : Position) : α := list [number p.x, number p.y]
  ofPath (ps : List Position) : α := list (ps.map ofPosition)

def listEq {α : Type} (eq : α → α → Bool) : List α → List α → Bool
  | [], [] => true
  | a :: as, b :: bs => eq a b && listEq eq as bs
  | _, _ => false

/-- Equality with numbers compared by value. -/
def valueEq : Coordinates → Coordinates → Bool
  | .position p, .position q => p.valueEq q
  | .path a, .path b => listEq Position.valueEq a b
  | .paths a, .paths b => listEq (listEq Position.valueEq) a b
  | .groups a, .groups b => listEq (listEq (listEq Position.valueEq)) a b
  | _, _ => false

end Coordinates

def isClosed (ring : List Position) : Bool :=
  match ring.head?, ring.getLast? with
  | some first, some last => first.valueEq last
  | _, _ => true

/-- The paths that are line strings, by the kind. -/
def lines : Kind → Coordinates → List (List Position)
  | .lineString, .path line => [line]
  | .multiLineString, .paths lines => lines
  | _, _ => []

/-- The paths that are rings of polygons, by the kind. -/
def rings : Kind → Coordinates → List (List Position)
  | .polygon, .paths rings => rings
  | .multiPolygon, .groups polygons => polygons.flatten
  | _, _ => []

/-- The rules that coordinates of a kind keep. -/
structure Valid (kind : Kind) (coordinates : Coordinates) : Prop where
  depth : coordinates.depth = kind.depth
  finite : ∀ p ∈ coordinates.positions, p.isFinite = true
  lines : ∀ line ∈ lines kind coordinates, 2 ≤ line.length
  rings : ∀ ring ∈ rings kind coordinates, 4 ≤ ring.length ∧ isClosed ring = true

inductive Flaw where
  | depth (kind : Kind) (found : Nat)
  | notFinite (kind : Kind)
  | shortLine (length : Nat)
  | shortRing (length : Nat)
  | openRing
  deriving DecidableEq, Repr

def Flaw.message : Flaw → String
  | .depth kind found =>
    s!"{kind.name} coordinates must be nested {kind.depth} level(s) deep, found {found}"
  | .notFinite kind => s!"{kind.name} coordinates must be finite numbers"
  | .shortLine length => s!"a line string needs at least 2 positions, found {length}"
  | .shortRing length => s!"a linear ring needs at least 4 positions, found {length}"
  | .openRing => "a linear ring must start and end at the same position"

def lineFlaw? (line : List Position) : Option Flaw :=
  if line.length < 2 then some (.shortLine line.length) else none

def ringFlaw? (ring : List Position) : Option Flaw :=
  if ring.length < 4 then some (.shortRing ring.length)
  else if isClosed ring then none
  else some .openRing

/-- The first rule that coordinates break. -/
def flaw? (kind : Kind) (coordinates : Coordinates) : Option Flaw :=
  if coordinates.depth ≠ kind.depth then some (.depth kind coordinates.depth)
  else if coordinates.positions.any (!·.isFinite) then some (.notFinite kind)
  else ((lines kind coordinates).findSome? lineFlaw?).or
    ((rings kind coordinates).findSome? ringFlaw?)

theorem lineFlaw?_eq_none_iff {line : List Position} : lineFlaw? line = none ↔ 2 ≤ line.length := by
  simp only [lineFlaw?]
  split
  · simp only [reduceCtorEq, false_iff]
    omega
  · simp only [true_iff]
    omega

theorem ringFlaw?_eq_none_iff {ring : List Position} :
    ringFlaw? ring = none ↔ 4 ≤ ring.length ∧ isClosed ring = true := by
  simp only [ringFlaw?]
  split
  · simp only [reduceCtorEq, false_iff]
    omega
  · split <;> simp_all

theorem flaw?_eq_none_iff {kind : Kind} {coordinates : Coordinates} :
    flaw? kind coordinates = none ↔ Valid kind coordinates := by
  constructor
  · intro sound
    simp only [flaw?] at sound
    split at sound
    · contradiction
    · split at sound
      · contradiction
      · rename_i depth finite
        simp only [Option.or_eq_none_iff, List.findSome?_eq_none_iff, lineFlaw?_eq_none_iff,
          ringFlaw?_eq_none_iff] at sound
        refine ⟨by simpa using depth, ?_, sound.1, sound.2⟩
        simpa using finite
  · intro valid
    simp only [flaw?, valid.depth, ne_eq, not_true_eq_false, if_false]
    split
    · rename_i infinite
      obtain ⟨p, mem, bad⟩ := List.any_eq_true.mp infinite
      simp [valid.finite p mem] at bad
    · simp only [Option.or_eq_none_iff, List.findSome?_eq_none_iff, lineFlaw?_eq_none_iff,
        ringFlaw?_eq_none_iff]
      exact ⟨valid.lines, valid.rings⟩

end Geometry

structure Geometry where
  kind : Geometry.Kind
  coordinates : Geometry.Coordinates
  /-- The spatial reference id. -/
  srid : Option Int32
  valid : Geometry.Valid kind coordinates
  deriving DecidableEq

namespace Geometry

/-- A geometry without a spatial reference id, unless the coordinates break a rule of the kind. -/
def ofCoordinates (kind : Kind) (coordinates : Coordinates) : Except Flaw Geometry :=
  match sound : flaw? kind coordinates with
  | none => .ok ⟨kind, coordinates, none, flaw?_eq_none_iff.mp sound⟩
  | some flaw => .error flaw

def point (x y : Binary64) : Except Flaw Geometry := ofCoordinates .point (.position ⟨x, y⟩)

def withSrid (geometry : Geometry) (srid : Option Int32) : Geometry := { geometry with srid }

/-- Equality with numbers compared by value. -/
def valueEq (g h : Geometry) : Bool :=
  g.kind == h.kind && g.coordinates.valueEq h.coordinates && g.srid == h.srid

/-- The fields that geometries have as objects. -/
def typeField : String := "type"

def coordinatesField : String := "coordinates"

def sridField : String := "crs"

/-- The serialized form. A missing spatial reference id has no member. -/
def toJson (geometry : Geometry) : Json :=
  .object ([(typeField, .string geometry.kind.name),
      (coordinatesField, geometry.coordinates.nest .ofBinary64 .array)] ++
    (geometry.srid.map fun srid => (sridField, .number (.ofInt64 srid.toInt64))).toList)

/-- The literal, with the kind as an enum value. -/
def toLiteral (geometry : Geometry) : Literal :=
  .object ([(typeField, .enum geometry.kind.name),
      (coordinatesField, geometry.coordinates.nest .float .list)] ++
    (geometry.srid.map fun srid => (sridField, .int srid.toInt64)).toList)

end Geometry
end SpatialQuery
