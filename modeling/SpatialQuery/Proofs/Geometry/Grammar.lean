import Mathlib.Data.List.Forall2
import SpatialQuery.Proofs.Binary64.Range
import SpatialQuery.Proofs.Geometry.WellFormed
import SpatialQuery.Proofs.Scalar.Dispatch

namespace SpatialQuery

namespace Geometry

/-- A position is spelled as an array of exactly two numbers. -/
inductive SpellsPosition : Json → Position → Prop where
  | numbers (x y : Json.Number) :
    SpellsPosition (.array [.number x, .number y]) ⟨x.toBinary64, y.toBinary64⟩

/-- A list is spelled as the array of what its items are spelled as, in order. -/
inductive SpellsList {β : Type} (item : Json → β → Prop) : Json → List β → Prop where
  | array {js : List Json} {bs : List β} (h : List.Forall₂ item js bs) : SpellsList item (.array js) bs

def SpellsPath : Json → List Position → Prop := SpellsList SpellsPosition

def SpellsPaths : Json → List (List Position) → Prop := SpellsList SpellsPath

def SpellsGroups : Json → List (List (List Position)) → Prop := SpellsList SpellsPaths

/-- A path of four positions or more whose last is equal to its first, numbers being compared by value. -/
structure Closes (ring : List Position) : Prop where
  long : 4 ≤ ring.length
  closed : ∃ first last, ring.head? = some first ∧ ring.getLast? = some last ∧
    first.valueEq last = true

/-- How the coordinates of each kind are spelled. The depth of the arrays is fixed by the kind, and so
are the least numbers of positions. -/
inductive Spells : Kind → Json → Coordinates → Prop where
  | point {j : Json} {p : Position} (h : SpellsPosition j p) : Spells .point j (.position p)
  | multiPoint {j : Json} {ps : List Position} (h : SpellsPath j ps) : Spells .multiPoint j (.path ps)
  | lineString {j : Json} {line : List Position} (h : SpellsPath j line) (long : 2 ≤ line.length) :
    Spells .lineString j (.path line)
  | multiLineString {j : Json} {lines : List (List Position)} (h : SpellsPaths j lines)
    (long : ∀ line ∈ lines, 2 ≤ line.length) : Spells .multiLineString j (.paths lines)
  | polygon {j : Json} {rings : List (List Position)} (h : SpellsPaths j rings)
    (closes : ∀ ring ∈ rings, Closes ring) : Spells .polygon j (.paths rings)
  | multiPolygon {j : Json} {polygons : List (List (List Position))} (h : SpellsGroups j polygons)
    (closes : ∀ rings ∈ polygons, ∀ ring ∈ rings, Closes ring) :
    Spells .multiPolygon j (.groups polygons)

/-- How a spatial reference id is given, or not given, by a member that may be missing. -/
inductive GivesSrid : Option Json → Option Int32 → Prop where
  | missing : GivesSrid none none
  | null : GivesSrid (some .null) none
  | integer {n : Int} {lower : -0x8000000000000000 ≤ n} {upper : n < 0x10000000000000000}
    (srid : Int32) (h : srid.toInt = n) :
    GivesSrid (some (.number (.integer n lower upper))) (some srid)

/-- What the members of an object give of a geometry of a kind. Other members do not count. -/
structure Describes (kind : Kind) (members : List (String × Json)) (coordinates : Coordinates)
    (srid : Option Int32) : Prop where
  type : members.lookup "type" = some (.string kind.name)
  coordinates : ∃ j, members.lookup "coordinates" = some j ∧ Spells kind j coordinates
  srid : GivesSrid (members.lookup "crs") srid

theorem isRing_iff_closes {ring : List Position} :
    IsRing ring ↔ (∀ p ∈ ring, p.isFinite = true) ∧ Closes ring :=
  ⟨fun h => ⟨h.finite, h.long, h.closed⟩, fun ⟨finite, h⟩ => ⟨finite, h.long, h.closed⟩⟩

theorem SpellsPosition.isFinite {j : Json} {p : Position} (h : SpellsPosition j p) :
    p.isFinite = true := by
  cases h with
  | numbers x y => simp [Position.isFinite, x.toBinary64_isFinite, y.toBinary64_isFinite]

/-- What holds of each spelled item holds of all items of a spelled list. -/
theorem SpellsList.forall_mem {β : Type} {item : Json → β → Prop} {P : β → Prop} {j : Json}
    {bs : List β} (h : SpellsList item j bs) (hi : ∀ j b, item j b → P b) : ∀ b ∈ bs, P b := by
  cases h with
  | array h =>
    induction h with
    | nil => exact nofun
    | cons hb _ ih => exact List.forall_mem_cons.mpr ⟨hi _ _ hb, ih⟩

theorem SpellsPath.isFinite {j : Json} {ps : List Position} (h : SpellsPath j ps) :
    ∀ p ∈ ps, p.isFinite = true :=
  SpellsList.forall_mem h fun _ _ => SpellsPosition.isFinite

theorem SpellsPaths.isFinite {j : Json} {pss : List (List Position)} (h : SpellsPaths j pss) :
    ∀ ps ∈ pss, ∀ p ∈ ps, p.isFinite = true :=
  SpellsList.forall_mem h fun _ _ => SpellsPath.isFinite

theorem SpellsGroups.isFinite {j : Json} {psss : List (List (List Position))}
    (h : SpellsGroups j psss) : ∀ pss ∈ psss, ∀ ps ∈ pss, ∀ p ∈ ps, p.isFinite = true :=
  SpellsList.forall_mem h fun _ _ => SpellsPaths.isFinite

/-- Numbers in JSON are finite, so whatever is spelled is well-formed. -/
theorem Spells.wellFormed {kind : Kind} {j : Json} {coordinates : Coordinates}
    (h : Spells kind j coordinates) : WellFormed kind coordinates := by
  cases h with
  | point h => exact .point h.isFinite
  | multiPoint h => exact .multiPoint h.isFinite
  | lineString h long => exact .lineString ⟨h.isFinite, long⟩
  | multiLineString h long =>
    exact .multiLineString fun line hm => ⟨h.isFinite line hm, long line hm⟩
  | polygon h closes =>
    exact .polygon fun ring hm => isRing_iff_closes.mpr ⟨h.isFinite ring hm, closes ring hm⟩
  | multiPolygon h closes =>
    refine .multiPolygon fun rings hr ring hm => isRing_iff_closes.mpr ?_
    exact ⟨h.isFinite rings hr ring hm, closes rings hr ring hm⟩

namespace Nested

theorem ofNumber_eq_ok_iff {x : Binary64} {nested : Nested} :
    ofNumber x = .ok nested ↔ ∃ y, x = .finite y ∧ nested = .number y := by
  cases x with
  | finite y => simp [ofNumber, eq_comm]
  | nan | infinity => simp [ofNumber]

theorem ofJson_eq_number_iff {j : Json} {x : Binary64.Finite} :
    ofJson j = .ok (.number x) ↔ ∃ n, j = .number n ∧ n.toBinary64 = .finite x := by
  cases j with
  | number n => simp [ofJson, ofNumber_eq_ok_iff]
  | array items => simp [ofJson, Outcome.map_eq_ok_iff]
  | null | bool | string | object => simp [ofJson]

theorem ofJson_eq_list_iff {j : Json} {nested : List Nested} :
    ofJson j = .ok (.list nested) ↔
      ∃ js, j = .array js ∧ List.Forall₂ (fun j n => ofJson j = .ok n) js nested := by
  cases j with
  | array items => simp [ofJson, Outcome.map_eq_ok_iff, ofJsons_eq_mapM, Outcome.mapM_eq_ok_iff]
  | number n => simp [ofJson, ofNumber_eq_ok_iff]
  | null | bool | string | object => simp [ofJson]

theorem items_eq_ok_iff {nested : Nested} {items : List Nested} :
    nested.items = .ok items ↔ nested = .list items := by
  cases nested <;> simp [Nested.items]

theorem position_eq_ok_iff {nested : Nested} {p : Position} :
    nested.position = .ok p ↔
      ∃ x y, nested = .list [.number x, .number y] ∧ p = ⟨.finite x, .finite y⟩ := by
  constructor
  · intro h
    unfold position at h
    split at h
    · cases h
    · cases h
      exact ⟨_, _, rfl, rfl⟩
    · split at h <;> cases h
  · rintro ⟨x, y, rfl, rfl⟩
    rfl

theorem readsBack_position_iff {j : Json} {p : Position} :
    ReadsBack ofJson position j p ↔ SpellsPosition j p := by
  constructor
  · rintro ⟨nested, hr, hs⟩
    obtain ⟨x, y, rfl, rfl⟩ := position_eq_ok_iff.mp hs
    obtain ⟨js, rfl, items⟩ := ofJson_eq_list_iff.mp hr
    simp only [List.forall₂_cons_right_iff, List.forall₂_nil_right_iff, ofJson_eq_number_iff] at items
    obtain ⟨_, _, ⟨m, rfl, hx⟩, ⟨_, _, ⟨n, rfl, hy⟩, rfl, rfl⟩, rfl⟩ := items
    rw [← hx, ← hy]
    exact .numbers m n
  · rintro ⟨m, n⟩
    obtain ⟨x, hx⟩ := Binary64.exists_finite m.toBinary64_isFinite
    obtain ⟨y, hy⟩ := Binary64.exists_finite n.toBinary64_isFinite
    rw [hx, hy]
    refine ⟨.list [.number x, .number y], ofJson_eq_list_iff.mpr ⟨_, rfl, ?_⟩, rfl⟩
    exact .cons (ofJson_eq_number_iff.mpr ⟨m, rfl, hx⟩)
      (.cons (ofJson_eq_number_iff.mpr ⟨n, rfl, hy⟩) .nil)

private theorem forall₂_comp {α β γ : Type} {r : α → β → Prop} {s : β → γ → Prop} {as : List α}
    {cs : List γ} : (∃ bs, List.Forall₂ r as bs ∧ List.Forall₂ s bs cs) ↔
      List.Forall₂ (fun a c => ∃ b, r a b ∧ s b c) as cs := by
  constructor
  · rintro ⟨bs, hr, hs⟩
    induction hr generalizing cs with
    | nil =>
      cases hs
      exact .nil
    | cons h _ ih =>
      cases hs with
      | cons h' hs => exact .cons ⟨_, h, h'⟩ (ih hs)
  · intro h
    induction h with
    | nil => exact ⟨[], .nil, .nil⟩
    | cons h _ ih =>
      obtain ⟨b, h, h'⟩ := h
      obtain ⟨bs, hr, hs⟩ := ih
      exact ⟨b :: bs, .cons h hr, .cons h' hs⟩

/-- A list is read exactly where it is spelled, if that holds of its items. -/
theorem readsBack_list_iff {β : Type} {shape : Nested → Except Flaw β} {item : Json → β → Prop}
    (h : ∀ j b, ReadsBack ofJson shape j b ↔ item j b) (j : Json) (bs : List β) :
    ReadsBack ofJson (fun nested => nested.items >>= (·.mapM shape)) j bs ↔ SpellsList item j bs := by
  have composed : ∀ js, (∃ nested, List.Forall₂ (fun j n => ofJson j = .ok n) js nested ∧
      List.Forall₂ (fun n b => shape n = .ok b) nested bs) ↔ List.Forall₂ item js bs := by
    intro js
    rw [forall₂_comp]
    have same : (fun j b => ∃ n, ofJson j = .ok n ∧ shape n = .ok b) = item :=
      funext fun j => funext fun b => propext (h j b)
    rw [same]
  constructor
  · rintro ⟨nested, hr, hs⟩
    obtain ⟨items, hi, hm⟩ := Outcome.bind_eq_ok_iff.mp hs
    rw [items_eq_ok_iff.mp hi] at hr
    obtain ⟨js, rfl, read⟩ := ofJson_eq_list_iff.mp hr
    exact .array ((composed js).mp ⟨items, read, Outcome.mapM_eq_ok_iff.mp hm⟩)
  · rintro ⟨spelled⟩
    obtain ⟨nested, read, shaped⟩ := (composed _).mpr spelled
    refine ⟨.list nested, ofJson_eq_list_iff.mpr ⟨_, rfl, read⟩, ?_⟩
    exact Outcome.mapM_eq_ok_iff.mpr shaped

theorem readsBack_path_iff (j : Json) (ps : List Position) :
    ReadsBack ofJson path j ps ↔ SpellsPath j ps :=
  readsBack_list_iff (fun _ _ => readsBack_position_iff) j ps

theorem readsBack_paths_iff (j : Json) (pss : List (List Position)) :
    ReadsBack ofJson paths j pss ↔ SpellsPaths j pss :=
  readsBack_list_iff readsBack_path_iff j pss

theorem readsBack_groups_iff (j : Json) (psss : List (List (List Position))) :
    ReadsBack ofJson groups j psss ↔ SpellsGroups j psss :=
  readsBack_list_iff readsBack_paths_iff j psss

/-- Coordinates of a depth are read by their constructor from what is read at that depth. -/
theorem readsBack_map_iff {β γ : Type} {shape : Nested → Except Flaw β} {f : β → γ} {j : Json}
    {c : γ} : ReadsBack ofJson (fun nested => (shape nested).map f) j c ↔
      ∃ b, f b = c ∧ ReadsBack ofJson shape j b := by
  simp only [ReadsBack, Outcome.map_eq_ok_iff]
  constructor
  · rintro ⟨nested, hr, b, hs, same⟩
    exact ⟨b, same, nested, hr, hs⟩
  · rintro ⟨b, same, nested, hr, hs⟩
    exact ⟨nested, hr, b, hs, same⟩

/-- Coordinates are read for a kind and keep its rules exactly where they are spelled for it. -/
theorem readsBack_coordinates_iff {kind : Kind} {j : Json} {coordinates : Coordinates} :
    ReadsBack ofJson (Nested.coordinates kind) j coordinates ∧ WellFormed kind coordinates ↔
      Spells kind j coordinates := by
  constructor
  · rintro ⟨read, sound⟩
    cases sound with
    | point h =>
      obtain ⟨p, ⟨⟩, read⟩ := readsBack_map_iff.mp read
      exact .point (readsBack_position_iff.mp read)
    | multiPoint h =>
      obtain ⟨ps, ⟨⟩, read⟩ := readsBack_map_iff.mp read
      exact .multiPoint ((readsBack_path_iff _ _).mp read)
    | lineString h =>
      obtain ⟨ps, ⟨⟩, read⟩ := readsBack_map_iff.mp read
      exact .lineString ((readsBack_path_iff _ _).mp read) h.long
    | multiLineString h =>
      obtain ⟨pss, ⟨⟩, read⟩ := readsBack_map_iff.mp read
      exact .multiLineString ((readsBack_paths_iff _ _).mp read) fun line hm => (h line hm).long
    | polygon h =>
      obtain ⟨pss, ⟨⟩, read⟩ := readsBack_map_iff.mp read
      exact .polygon ((readsBack_paths_iff _ _).mp read)
        fun ring hm => (isRing_iff_closes.mp (h ring hm)).2
    | multiPolygon h =>
      obtain ⟨psss, ⟨⟩, read⟩ := readsBack_map_iff.mp read
      exact .multiPolygon ((readsBack_groups_iff _ _).mp read)
        fun rings hr ring hm => (isRing_iff_closes.mp (h rings hr ring hm)).2
  · intro spelled
    refine ⟨?_, spelled.wellFormed⟩
    cases spelled with
    | point h => exact readsBack_map_iff.mpr ⟨_, rfl, readsBack_position_iff.mpr h⟩
    | multiPoint h | lineString h =>
      exact readsBack_map_iff.mpr ⟨_, rfl, (readsBack_path_iff _ _).mpr h⟩
    | multiLineString h | polygon h =>
      exact readsBack_map_iff.mpr ⟨_, rfl, (readsBack_paths_iff _ _).mpr h⟩
    | multiPolygon h => exact readsBack_map_iff.mpr ⟨_, rfl, (readsBack_groups_iff _ _).mpr h⟩

end Nested
end Geometry

namespace GeometryInput

open SpatialQuery.Geometry (Kind Nested Coordinates Describes GivesSrid WellFormed Spells)

theorem nestedOfMembers_eq_ok_some_iff {members : List (String × Json)} {nested : Nested} :
    nestedOfMembers members = .ok (some nested) ↔
      ∃ j, members.lookup "coordinates" = some j ∧ Nested.ofJson j = .ok nested := by
  have read (j : Json) : ((Nested.ofJson j).mapError Flaw.nested >>= fun n => pure (some n)) =
      .ok (some nested) ↔ Nested.ofJson j = .ok nested := by
    rw [Outcome.bind_pure_eq_map, Outcome.map_eq_ok_iff]
    simp [Outcome.mapError_eq_ok_iff]
  rw [nestedOfMembers, Geometry.coordinatesField]
  cases members.lookup "coordinates" with
  | none => simp
  | some j =>
    cases j with
    | null => simp [Nested.ofJson]
    | bool | number | string | array | object => simpa using read _

/-- A reference id is read from integers of 32 bits only. -/
theorem sridOf_int64?_eq_ok_iff {n : Json.Number} {srid : Int32} :
    sridOf n.int64? = .ok srid ↔ ∃ value lower upper, n = .integer value lower upper ∧
      srid.toInt = value := by
  constructor
  · intro h
    cases n with
    | float x => cases h
    | integer value lower upper =>
      refine ⟨value, lower, upper, rfl, ?_⟩
      rw [Json.Number.int64?] at h
      split at h
      · next fits =>
        rw [sridOf, Int64.toInt_ofInt_of_le lower fits] at h
        split at h
        · next range =>
          cases h
          rw [Int64.toInt_toInt32, Int64.toInt_ofInt_of_le lower fits]
          exact Int.bmod_eq_of_le (by omega) (by omega)
        · cases h
      · cases h
  · rintro ⟨value, lower, upper, rfl, rfl⟩
    have same : Json.Number.integer srid.toInt lower upper = .ofInt64 srid.toInt64 := by
      simp [Json.Number.ofInt64]
    rw [same, Json.Number.int64?_ofInt64, sridOf_toInt64]

theorem sridOfMembers_eq_ok_iff {members : List (String × Json)} {srid : Option Int32} :
    sridOfMembers members = .ok srid ↔ GivesSrid (members.lookup "crs") srid := by
  rw [sridOfMembers, Geometry.sridField]
  cases members.lookup "crs" with
  | none =>
    constructor
    · rintro ⟨⟩
      exact .missing
    · rintro ⟨⟩
      rfl
  | some j =>
    cases j with
    | null =>
      constructor
      · rintro ⟨⟩
        exact .null
      · rintro ⟨⟩
        rfl
    | number n =>
      simp only [Outcome.bind_pure_eq_map, Outcome.map_eq_ok_iff, sridOf_int64?_eq_ok_iff]
      constructor
      · rintro ⟨id, ⟨value, lower, upper, rfl, same⟩, rfl⟩
        exact .integer id same
      · intro given
        cases given with
        | integer id same => exact ⟨id, ⟨_, _, _, rfl, same⟩, rfl⟩
    | bool | string | array | object =>
      constructor
      · rintro ⟨⟩
      · rintro ⟨⟩

theorem build_eq_ok_iff {kind : Kind} {nested : Option Nested} {srid : Option Int32} {g : Geometry} :
    build kind nested srid = .ok g ↔ ∃ n, nested = some n ∧ n.coordinates kind = .ok g.coordinates ∧
      g.kind = kind ∧ g.srid = srid := by
  constructor
  · intro h
    cases nested with
    | none => cases h
    | some n =>
      obtain ⟨coordinates, hc, h⟩ := Outcome.bind_eq_ok_iff.mp h
      obtain ⟨built, hb, h⟩ := Outcome.bind_eq_ok_iff.mp h
      cases h
      obtain ⟨_, rfl, rfl, _⟩ :=
        Geometry.ofCoordinates_eq_ok_iff.mp (Outcome.mapError_eq_ok_iff.mp hb)
      exact ⟨n, rfl, Outcome.mapError_eq_ok_iff.mp hc, rfl, rfl⟩
  · rintro ⟨n, rfl, hc, rfl, rfl⟩
    exact build_eq_ok g hc

/-- A kind reads from an object exactly the geometry that its members describe. -/
theorem geometryOfMembers_eq_ok_iff {kind : Kind} {members : List (String × Json)} {g : Geometry} :
    geometryOfMembers kind members = .ok g ↔
      g.kind = kind ∧ Describes kind members g.coordinates g.srid := by
  rw [geometryOfMembers_eq_assemble, assemble_eq_ok_iff]
  constructor
  · rintro ⟨type, n, hn, srid, hs, hb⟩
    obtain ⟨nested, rfl, hc, rfl, rfl⟩ := build_eq_ok_iff.mp hb
    obtain ⟨j, hl, hj⟩ := nestedOfMembers_eq_ok_some_iff.mp hn
    refine ⟨rfl, typeOfMembers_eq_ok_some_iff.mp type, ⟨j, hl, ?_⟩, sridOfMembers_eq_ok_iff.mp hs⟩
    exact Nested.readsBack_coordinates_iff.mp ⟨⟨nested, hj, hc⟩, g.valid.wellFormed⟩
  · rintro ⟨rfl, type, ⟨j, hl, spelled⟩, srid⟩
    obtain ⟨⟨nested, hj, hc⟩, _⟩ := Nested.readsBack_coordinates_iff.mpr spelled
    exact ⟨typeOfMembers_eq_ok_some_iff.mpr type, _,
      nestedOfMembers_eq_ok_some_iff.mpr ⟨j, hl, hj⟩, _, sridOfMembers_eq_ok_iff.mpr srid,
      build_eq_ok g hc⟩

/-- Deserializing an object for a kind gives a geometry exactly if the members describe one: of the
kind, with the coordinates that they spell and the reference id that they give, if any. Else the object
is bad data for the type of the kind. -/
theorem deserialize_object_iff (kind : Kind) (members : List (String × Json)) :
    (∀ coordinates srid, Describes kind members coordinates srid ↔
      ∃ g : Geometry, (scalar kind).deserialize (some (.json (.object members))) =
          .ok (some (.geometry g)) ∧
        g.kind = kind ∧ g.coordinates = coordinates ∧ g.srid = srid) ∧
    ((∃ g : Geometry, (scalar kind).deserialize (some (.json (.object members))) =
        .ok (some (.geometry g)) ∧ g.kind = kind) ∨
      ∃ message, (scalar kind).deserialize (some (.json (.object members))) =
        .error (.data kind.inputTypeName message)) := by
  rw [deserialize_present kind rfl, geometryOf]
  constructor
  · intro coordinates srid
    constructor
    · intro described
      obtain ⟨j, _, spelled⟩ := described.coordinates
      let g : Geometry := ⟨kind, coordinates, srid, spelled.wellFormed.valid⟩
      have read : geometryOfMembers kind members = .ok g :=
        geometryOfMembers_eq_ok_iff.mpr ⟨rfl, described⟩
      exact ⟨g, by rw [read]; rfl, rfl, rfl, rfl⟩
    · rintro ⟨g, read, rfl, rfl, rfl⟩
      obtain ⟨g', hg, same⟩ := Outcome.map_eq_ok_iff.mp read
      cases same
      exact (geometryOfMembers_eq_ok_iff.mp (Outcome.mapError_eq_ok_iff.mp hg)).2
  · cases read : geometryOfMembers kind members with
    | ok g => exact .inl ⟨g, rfl, kind_of_assemble read⟩
    | error flaw => exact .inr ⟨flaw.message, rfl⟩

end GeometryInput
end SpatialQuery
