import SpatialQuery.Proofs.Geometry.Reading
import SpatialQuery.Proofs.Outcome
import SpatialQuery.Scalar.GeometryInput

namespace SpatialQuery

namespace Geometry

/-- The members of the serialized form. -/
def members (g : Geometry) : List (String × Json) :=
  [(typeField, .string g.kind.name), (coordinatesField, g.coordinates.nest .ofBinary64 .array)] ++
    (g.srid.map fun srid => (sridField, .number (.ofInt64 srid.toInt64))).toList

theorem toJson_eq_object (g : Geometry) : g.toJson = .object g.members := rfl

/-- The fields of the literal. -/
def fields (g : Geometry) : List (String × Literal) :=
  [(typeField, .enum g.kind.name), (coordinatesField, g.coordinates.nest .float .list)] ++
    (g.srid.map fun srid => (sridField, .int srid.toInt64)).toList

theorem toLiteral_eq_object (g : Geometry) : g.toLiteral = .object g.fields := rfl

theorem Coordinates.nest_eq_list {α : Type} (number : Binary64 → α) (list : List α → α)
    (coordinates : Coordinates) : ∃ items, coordinates.nest number list = list items := by
  cases coordinates with
  | position p => exact ⟨_, rfl⟩
  | path ps => exact ⟨_, rfl⟩
  | paths pss => exact ⟨_, rfl⟩
  | groups psss => exact ⟨_, rfl⟩

theorem ofCoordinates_eq_ok {kind : Kind} {coordinates : Coordinates} (h : Valid kind coordinates) :
    ofCoordinates kind coordinates = .ok ⟨kind, coordinates, none, h⟩ := by
  unfold ofCoordinates
  split
  · rfl
  · next flaw sound => rw [flaw?_eq_none_iff.mpr h] at sound; cases sound

theorem kind_of_ofCoordinates {kind : Kind} {coordinates : Coordinates} {g : Geometry}
    (h : ofCoordinates kind coordinates = .ok g) : g.kind = kind := by
  unfold ofCoordinates at h
  split at h
  · cases h; rfl
  · cases h

end Geometry

namespace GeometryInput

open SpatialQuery.Geometry (Kind Nested typeField coordinatesField sridField)

theorem kind_of_build {kind : Kind} {nested : Option Nested} {srid : Option Int32} {g : Geometry}
    (h : build kind nested srid = .ok g) : g.kind = kind := by
  cases nested with
  | none => cases h
  | some nested =>
    obtain ⟨coordinates, _, h⟩ := Outcome.bind_eq_ok_iff.mp h
    obtain ⟨built, hb, h⟩ := Outcome.bind_eq_ok_iff.mp h
    cases h
    exact Geometry.kind_of_ofCoordinates (g := built) (Outcome.mapError_eq_ok_iff.mp hb)

theorem build_eq_ok (g : Geometry) {nested : Nested}
    (h : nested.coordinates g.kind = .ok g.coordinates) :
    build g.kind (some nested) g.srid = .ok g := by
  refine Outcome.bind_eq_ok_iff.mpr ⟨_, Outcome.mapError_eq_ok_iff.mpr h, ?_⟩
  exact Outcome.bind_eq_ok_iff.mpr
    ⟨_, Outcome.mapError_eq_ok_iff.mpr (Geometry.ofCoordinates_eq_ok g.valid), rfl⟩

theorem checkType_eq_ok_iff {kind : Kind} {name : Option String} :
    checkType kind name = .ok () ↔ name = some kind.name := by
  cases name with
  | none => simp [checkType]
  | some name =>
    simp only [checkType]
    split <;> simp_all

theorem sridOf_toInt64 (srid : Int32) : sridOf (some srid.toInt64) = .ok srid := by
  have lower := srid.le_toInt
  have upper := srid.toInt_lt
  rw [sridOf, Int32.toInt_toInt64, if_pos ⟨by omega, by omega⟩, Int32.toInt32_toInt64]

/-- A geometry from what its fields hold, however they came to be read. -/
def assemble (kind : Kind) (name : Except Flaw (Option String))
    (nested : Except Flaw (Option Nested)) (srid : Except Flaw (Option Int32)) :
    Except Flaw Geometry := do
  checkType kind (← name)
  let nested ← nested
  let srid ← srid
  build kind nested srid

theorem geometryOfLiteral_eq_assemble (kind : Kind) (literal : Literal) :
    geometryOfLiteral kind literal =
      assemble kind (typeOfLiteral literal) (nestedOfLiteral literal) (sridOfLiteral literal) := rfl

theorem geometryOfMembers_eq_assemble (kind : Kind) (members : List (String × Json)) :
    geometryOfMembers kind members =
      assemble kind (typeOfMembers members) (nestedOfMembers members) (sridOfMembers members) := rfl

/-- Reading succeeds if each field can be read, the type field names the kind, and a geometry can be
built from the others. -/
theorem assemble_eq_ok_iff {kind : Kind} {name : Except Flaw (Option String)}
    {nested : Except Flaw (Option Nested)} {srid : Except Flaw (Option Int32)} {g : Geometry} :
    assemble kind name nested srid = .ok g ↔
      name = .ok (some kind.name) ∧
        ∃ n, nested = .ok n ∧ ∃ s, srid = .ok s ∧ build kind n s = .ok g := by
  simp only [assemble, Outcome.bind_eq_ok_iff]
  constructor
  · rintro ⟨found, rfl, _, hc, h⟩
    exact ⟨congrArg Except.ok (checkType_eq_ok_iff.mp hc), h⟩
  · rintro ⟨rfl, h⟩
    exact ⟨_, rfl, (), checkType_eq_ok_iff.mpr rfl, h⟩

theorem kind_of_assemble {kind : Kind} {name : Except Flaw (Option String)}
    {nested : Except Flaw (Option Nested)} {srid : Except Flaw (Option Int32)} {g : Geometry}
    (h : assemble kind name nested srid = .ok g) : g.kind = kind := by
  obtain ⟨_, n, _, s, _, hb⟩ := assemble_eq_ok_iff.mp h
  exact kind_of_build hb

theorem typeOfLiteral_toLiteral (g : Geometry) :
    typeOfLiteral g.toLiteral = .ok (some g.kind.name) := rfl

theorem sridOfLiteral_toLiteral (g : Geometry) : sridOfLiteral g.toLiteral = .ok g.srid := by
  obtain ⟨kind, coordinates, srid, valid⟩ := g
  cases srid with
  | none => rfl
  | some srid => exact congrArg (· >>= fun srid => pure (some srid)) (sridOf_toInt64 srid)

/-- A geometry is read back from its literal by its own kind. -/
theorem geometryOfLiteral_toLiteral (g : Geometry) : geometryOfLiteral g.kind g.toLiteral = .ok g := by
  obtain ⟨nested, hr, hs⟩ := Nested.reads_literal.readsBack_nest g.valid.depth g.valid.finite
  have hn : nestedOfLiteral g.toLiteral = .ok (some nested) := by
    obtain ⟨items, hi⟩ := Geometry.Coordinates.nest_eq_list Literal.float Literal.list g.coordinates
    have field : g.toLiteral.field? coordinatesField = some (.list items) := by
      rw [← hi]
      rfl
    rw [hi] at hr
    simp only [nestedOfLiteral, field, hr]
    rfl
  exact assemble_eq_ok_iff.mpr ⟨typeOfLiteral_toLiteral g, _, hn, _, sridOfLiteral_toLiteral g,
    build_eq_ok g hs⟩

theorem typeOfMembers_members (g : Geometry) : typeOfMembers g.members = .ok (some g.kind.name) := rfl

theorem sridOfMembers_members (g : Geometry) : sridOfMembers g.members = .ok g.srid := by
  obtain ⟨kind, coordinates, srid, valid⟩ := g
  cases srid with
  | none => rfl
  | some srid =>
    have number := (congrArg sridOf (Json.Number.int64?_ofInt64 srid.toInt64)).trans (sridOf_toInt64 srid)
    exact congrArg (· >>= fun srid => pure (some srid)) number

/-- A geometry is read back from its serialized form by its own kind. -/
theorem geometryOfMembers_members (g : Geometry) : geometryOfMembers g.kind g.members = .ok g := by
  obtain ⟨nested, hr, hs⟩ := Nested.reads_json.readsBack_nest g.valid.depth g.valid.finite
  have hn : nestedOfMembers g.members = .ok (some nested) := by
    obtain ⟨items, hi⟩ := Geometry.Coordinates.nest_eq_list Json.ofBinary64 Json.array g.coordinates
    have member : g.members.lookup coordinatesField = some (.array items) := by
      rw [← hi]
      rfl
    rw [hi] at hr
    simp only [nestedOfMembers, member, hr]
    rfl
  exact assemble_eq_ok_iff.mpr ⟨typeOfMembers_members g, _, hn, _, sridOfMembers_members g,
    build_eq_ok g hs⟩

/-- Whatever kind reads a literal that names a kind is that kind. -/
theorem kind_eq_of_geometryOfLiteral {kind : Kind} {literal : Literal} {name : String} {g : Geometry}
    (hn : typeOfLiteral literal = .ok (some name)) (h : geometryOfLiteral kind literal = .ok g) :
    name = kind.name := by
  rw [geometryOfLiteral_eq_assemble, assemble_eq_ok_iff, hn] at h
  exact Option.some.inj (Except.ok.inj h.1)

theorem kind_eq_of_geometryOfMembers {kind : Kind} {members : List (String × Json)} {name : String}
    {g : Geometry} (hn : typeOfMembers members = .ok (some name))
    (h : geometryOfMembers kind members = .ok g) : name = kind.name := by
  rw [geometryOfMembers_eq_assemble, assemble_eq_ok_iff, hn] at h
  exact Option.some.inj (Except.ok.inj h.1)

end GeometryInput
end SpatialQuery
