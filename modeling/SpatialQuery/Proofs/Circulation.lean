import SpatialQuery.Proofs.Binding.Coercing
import SpatialQuery.Proofs.Scalar.Parsing
import SpatialQuery.Proofs.Scalar.Stability

namespace SpatialQuery

open SpatialQuery.Geometry (WellFormed)

namespace Value

/-- The geometries in a value, at any depth inside lists. -/
inductive Holds : Value → Geometry → Prop where
  | geometry (g : Geometry) : Holds (.geometry g) g
  | list {items : List Value} {v : Value} {g : Geometry} (hm : v ∈ items) (h : Holds v g) :
    Holds (.list items) g

/-- A value that holds only geometries of well-formed coordinates. -/
def Sound (v : Value) : Prop := ∀ g, v.Holds g → WellFormed g.kind g.coordinates

theorem sound_json (j : Json) : (Value.json j).Sound := by
  intro g hg
  cases hg

theorem sound_geometry {g : Geometry} (h : WellFormed g.kind g.coordinates) :
    (Value.geometry g).Sound := by
  intro held hg
  cases hg
  exact h

theorem sound_list_iff {items : List Value} : (Value.list items).Sound ↔ ∀ v ∈ items, v.Sound := by
  constructor
  · intro h v hv g hg
    exact h g (.list hv hg)
  · intro h g hg
    cases hg with
    | list hm hg => exact h _ hm g hg

/-- What comes of a value is the value itself, or has been checked on the way. -/
theorem Normalizes.sound {v w : Value} (h : Normalizes v w) (hv : v.Sound) : w.Sound := by
  cases h with
  | boolean | int | float | string | id => exact sound_json _
  | geometry g => exact hv
  | object h => exact sound_geometry (GeometryInput.wellFormed_of_assemble h)

end Value

theorem Literal.Parses.sound {literal : Literal} {v : Value} (h : literal.Parses (some v)) :
    v.Sound := by
  cases h with
  | primitive h => exact Value.sound_json _
  | geometry h => exact Value.sound_geometry (GeometryInput.wellFormed_of_assemble h)

namespace Binding

theorem Fits.sound {type : TypeRef} {v : Value} (h : Fits (fun _ v => v.Sound) type v) : v.Sound := by
  induction type generalizing v with
  | named name => exact h
  | nonNull inner ih => exact ih h
  | list item ih =>
    cases v with
    | list items =>
      refine Value.sound_list_iff.mpr fun v hv => ?_
      rcases h v hv with fits | ⟨_, rfl⟩
      · exact ih fits
      · exact Value.sound_json _
    | json | geometry => exact h.elim

end Binding

/-- A registry of standard types and composites of them. -/
def Registry.Known (registry : Registry) : Prop :=
  ∀ name scalar, registry.get? name = some scalar → Scalar.Known scalar

namespace Circulation

/-- A value that one operation obtains, given those that were obtained before. -/
inductive Step (held : List Value) : Value → Prop where
  | ofCoordinates {kind : Geometry.Kind} {coordinates : Geometry.Coordinates} {g : Geometry}
    (h : Geometry.ofCoordinates kind coordinates = .ok g) : Step held (.geometry g)
  | point {x y : Binary64} {g : Geometry} (h : Geometry.point x y = .ok g) : Step held (.geometry g)
  | withSrid {g : Geometry} (srid : Option Int32) (hg : .geometry g ∈ held) :
    Step held (.geometry (g.withSrid srid))
  /-- JSON from outside, or what a value was serialized to. -/
  | json (j : Json) : Step held (.json j)
  | list {items : List Value} (h : ∀ v ∈ items, v ∈ held) : Step held (.list items)
  | item {items : List Value} {v : Value} (h : .list items ∈ held) (hv : v ∈ items) : Step held v
  | parseLiteral {scalar : Scalar} {literal : Literal} {v : Value} (known : Scalar.Known scalar)
    (h : scalar.parseLiteral literal = .ok (some v)) : Step held v
  | serialize {scalar : Scalar} {v w : Value} (known : Scalar.Known scalar) (hv : v ∈ held)
    (h : scalar.serialize (some v) = .ok (some w)) : Step held w
  | deserialize {scalar : Scalar} {v w : Value} (known : Scalar.Known scalar) (hv : v ∈ held)
    (h : scalar.deserialize (some v) = .ok (some w)) : Step held w
  | coerceArguments {registry : Registry} {definitions : List ArgumentDefinition}
    {supplied : List Argument} {values : List (String × Option Value)} {name : String} {v : Value}
    (known : registry.Known) (h : Binding.coerceArguments registry definitions supplied = .ok values)
    (hv : (name, some v) ∈ values) : Step held v

/-- The values that a run of operations has obtained. -/
inductive Run : List Value → Prop where
  | start : Run []
  | step {held : List Value} {v : Value} (h : Run held) (hs : Step held v) : Run (v :: held)

variable {held : List Value} {v : Value}

-- The proof that a geometry carries is not used: each is traced to the check that let it in.
theorem Step.sound (h : Step held v) (hheld : ∀ v ∈ held, v.Sound) : v.Sound := by
  cases h with
  | ofCoordinates h =>
    obtain ⟨sound, rfl, rfl, _⟩ := Geometry.ofCoordinates_eq_ok_iff.mp h
    exact Value.sound_geometry sound
  | point h =>
    obtain ⟨sound, hk, hc, _⟩ := Geometry.ofCoordinates_eq_ok_iff.mp h
    rw [← hk, ← hc] at sound
    exact Value.sound_geometry sound
  | @withSrid g srid hg =>
    have sound : WellFormed g.kind g.coordinates := hheld _ hg g (.geometry g)
    exact Value.sound_geometry sound
  | json j => exact Value.sound_json j
  | list h => exact Value.sound_list_iff.mpr fun v hv => hheld v (h v hv)
  | item h hv => exact Value.sound_list_iff.mp (hheld _ h) v hv
  | parseLiteral known h => exact (known.parses h).sound
  | serialize known hv h =>
    obtain ⟨j, rfl⟩ := known.json_of_serialize h
    exact Value.sound_json j
  | deserialize known hv h => exact (known.normalizes_of_deserialize h).sound (hheld _ hv)
  | coerceArguments known h hv =>
    obtain ⟨definition, _, bound⟩ := Outcome.exists_of_mem_mapM h hv
    refine (Binding.fits_of_bind ?_ bound rfl).sound
    intro name scalar found literal v parsed
    exact ((known name scalar found).parses parsed).sound

/-- Whatever is obtained in a run holds only geometries of well-formed coordinates. -/
theorem Run.sound (h : Run held) : ∀ v ∈ held, v.Sound := by
  induction h with
  | start => exact nofun
  | step h hs ih => exact List.forall_mem_cons.mpr ⟨hs.sound ih, ih⟩

/-- A geometry is made exactly of well-formed coordinates, which it keeps, without a reference id. Over
every run, each geometry inside what was obtained has well-formed coordinates for its kind and is
serialized to an object of a type, coordinates and, only if it has one, a reference id, free of null. -/
theorem geometries_sound :
    (∀ kind coordinates,
      ((∃ g, Geometry.ofCoordinates kind coordinates = .ok g) ↔ WellFormed kind coordinates) ∧
        ∀ g, Geometry.ofCoordinates kind coordinates = .ok g →
          g.kind = kind ∧ g.coordinates = coordinates ∧ g.srid = none) ∧
    ∀ held, Run held → ∀ v ∈ held, ∀ g, v.Holds g →
      WellFormed g.kind g.coordinates ∧
        ∃ members, g.toJson = .object members ∧
          members.map Prod.fst =
            ["type", "coordinates"] ++ (if g.srid.isSome then ["crs"] else []) ∧
          g.toJson.NullFree := by
  constructor
  · intro kind coordinates
    constructor
    · constructor
      · rintro ⟨g, h⟩
        exact (Geometry.ofCoordinates_eq_ok_iff.mp h).1
      · intro h
        exact ⟨_, Geometry.ofCoordinates_eq_ok h.valid⟩
    · intro g h
      exact (Geometry.ofCoordinates_eq_ok_iff.mp h).2
  · intro held run v hv g hg
    have sound : WellFormed g.kind g.coordinates := run.sound v hv g hg
    exact ⟨sound, g.members, g.toJson_eq_object, g.members_names, sound.toJson_nullFree⟩

/-- A run that makes a point, sets its reference id and puts it into a list. -/
theorem geometries_sound_point :
    ∃ g : Geometry, Geometry.point (.ofInt 1) (.ofInt 2) = .ok g ∧
      ∃ held, Run (.list [.geometry (g.withSrid (some 4326))] :: held) ∧
        WellFormed .point g.coordinates ∧
        ∃ members, (g.withSrid (some 4326)).toJson = .object members ∧
          members.map Prod.fst = ["type", "coordinates", "crs"] ∧
          (g.withSrid (some 4326)).toJson.NullFree := by
  have valid : Geometry.Valid .point (.position ⟨.ofInt 1, .ofInt 2⟩) :=
    Geometry.flaw?_eq_none_iff.mp (by decide)
  let g : Geometry := ⟨.point, _, none, valid⟩
  let referenced : Geometry := g.withSrid (some 4326)
  have made : Geometry.point (.ofInt 1) (.ofInt 2) = .ok g := Geometry.ofCoordinates_eq_ok valid
  have run : Run [.list [.geometry referenced], .geometry referenced, .geometry g] := by
    refine .step (.step (.step .start (.point made)) (.withSrid _ (.head _))) (.list ?_)
    intro v hv
    rw [List.mem_singleton.mp hv]
    exact .head _
  have inside : (Value.list [.geometry referenced]).Holds referenced := .list (.head _) (.geometry _)
  obtain ⟨sound, written⟩ := geometries_sound.2 _ run _ (.head _) referenced inside
  exact ⟨g, made, _, run, sound, written⟩

end Circulation
end SpatialQuery
