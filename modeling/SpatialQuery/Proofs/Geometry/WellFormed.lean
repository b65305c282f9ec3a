import SpatialQuery.Proofs.Geometry.Written

namespace SpatialQuery

namespace Geometry

structure IsLine (line : List Position) : Prop where
  finite : ∀ p ∈ line, p.isFinite = true
  long : 2 ≤ line.length

/-- A ring ends where it starts, numbers being compared by value. -/
structure IsRing (ring : List Position) : Prop where
  finite : ∀ p ∈ ring, p.isFinite = true
  long : 4 ≤ ring.length
  closed : ∃ first last, ring.head? = some first ∧ ring.getLast? = some last ∧
    first.valueEq last = true

/-- The coordinates that a geometry of a kind may have. -/
inductive WellFormed : Kind → Coordinates → Prop where
  | point {p : Position} (h : p.isFinite = true) : WellFormed .point (.position p)
  | multiPoint {ps : List Position} (h : ∀ p ∈ ps, p.isFinite = true) : WellFormed .multiPoint (.path ps)
  | lineString {line : List Position} (h : IsLine line) : WellFormed .lineString (.path line)
  | multiLineString {lines : List (List Position)} (h : ∀ line ∈ lines, IsLine line) :
    WellFormed .multiLineString (.paths lines)
  | polygon {rings : List (List Position)} (h : ∀ ring ∈ rings, IsRing ring) :
    WellFormed .polygon (.paths rings)
  | multiPolygon {polygons : List (List (List Position))}
    (h : ∀ rings ∈ polygons, ∀ ring ∈ rings, IsRing ring) : WellFormed .multiPolygon (.groups polygons)

/-- Only an empty path, which is no ring, has no ends to compare. -/
theorem isClosed_iff {ring : List Position} (h : ring ≠ []) :
    isClosed ring = true ↔ ∃ first last, ring.head? = some first ∧ ring.getLast? = some last ∧
      first.valueEq last = true := by
  rw [isClosed, List.head?_eq_some_head h, List.getLast?_eq_some_getLast h]
  simp

theorem isRing_iff {ring : List Position} :
    IsRing ring ↔ (∀ p ∈ ring, p.isFinite = true) ∧ 4 ≤ ring.length ∧ isClosed ring = true := by
  constructor
  · intro h
    have nonempty : ring ≠ [] := List.ne_nil_of_length_pos (Nat.lt_of_lt_of_le (by decide) h.long)
    exact ⟨h.finite, h.long, (isClosed_iff nonempty).mpr h.closed⟩
  · rintro ⟨finite, long, closed⟩
    have nonempty : ring ≠ [] := List.ne_nil_of_length_pos (Nat.lt_of_lt_of_le (by decide) long)
    exact ⟨finite, long, (isClosed_iff nonempty).mp closed⟩

theorem Valid.wellFormed {kind : Kind} {coordinates : Coordinates} (h : Valid kind coordinates) :
    WellFormed kind coordinates := by
  obtain ⟨depth, finite, lines, rings⟩ := h
  -- Where the depths agree, each kind has one shape of coordinates left.
  cases kind with
  | point =>
    cases coordinates with
    | position p => exact .point (finite p (.head _))
    | path | paths | groups => cases depth
  | multiPoint =>
    cases coordinates with
    | path ps => exact .multiPoint finite
    | position | paths | groups => cases depth
  | lineString =>
    cases coordinates with
    | path ps => exact .lineString ⟨finite, lines ps (.head _)⟩
    | position | paths | groups => cases depth
  | multiLineString =>
    cases coordinates with
    | paths pss =>
      refine .multiLineString fun line hm => ⟨fun p hp => ?_, lines line hm⟩
      exact finite p (List.mem_flatten.mpr ⟨line, hm, hp⟩)
    | position | path | groups => cases depth
  | polygon =>
    cases coordinates with
    | paths pss =>
      refine .polygon fun ring hm => isRing_iff.mpr ⟨fun p hp => ?_, rings ring hm⟩
      exact finite p (List.mem_flatten.mpr ⟨ring, hm, hp⟩)
    | position | path | groups => cases depth
  | multiPolygon =>
    cases coordinates with
    | groups psss =>
      refine .multiPolygon fun polygon hg ring hm => isRing_iff.mpr ?_
      have inside : ring ∈ psss.flatten := List.mem_flatten.mpr ⟨polygon, hg, hm⟩
      exact ⟨fun p hp => finite p (List.mem_flatten.mpr ⟨ring, inside, hp⟩), rings ring inside⟩
    | position | path | paths => cases depth

theorem WellFormed.valid {kind : Kind} {coordinates : Coordinates} (h : WellFormed kind coordinates) :
    Valid kind coordinates := by
  cases h with
  | @point p h =>
    refine ⟨rfl, ?_, nofun, nofun⟩
    intro q hq
    rwa [List.mem_singleton.mp hq]
  | multiPoint h => exact ⟨rfl, h, nofun, nofun⟩
  | @lineString line h =>
    refine ⟨rfl, h.finite, ?_, nofun⟩
    intro l hl
    rw [List.mem_singleton.mp hl]
    exact h.long
  | multiLineString h =>
    refine ⟨rfl, ?_, fun line hm => (h line hm).long, nofun⟩
    intro p hp
    obtain ⟨line, hm, hp⟩ := List.mem_flatten.mp hp
    exact (h line hm).finite p hp
  | polygon h =>
    refine ⟨rfl, ?_, nofun, fun ring hm => (isRing_iff.mp (h ring hm)).2⟩
    intro p hp
    obtain ⟨ring, hm, hp⟩ := List.mem_flatten.mp hp
    exact (h ring hm).finite p hp
  | multiPolygon h =>
    refine ⟨rfl, ?_, nofun, ?_⟩
    · intro p hp
      obtain ⟨ring, hm, hp⟩ := List.mem_flatten.mp hp
      obtain ⟨rings, hr, hm⟩ := List.mem_flatten.mp hm
      exact (h rings hr ring hm).finite p hp
    · intro ring hm
      obtain ⟨rings, hr, hm⟩ := List.mem_flatten.mp hm
      exact (isRing_iff.mp (h rings hr ring hm)).2

/-- A geometry is made of well-formed coordinates only, which it keeps, without a reference id. -/
theorem ofCoordinates_eq_ok_iff {kind : Kind} {coordinates : Coordinates} {g : Geometry} :
    ofCoordinates kind coordinates = .ok g ↔
      WellFormed kind coordinates ∧ g.kind = kind ∧ g.coordinates = coordinates ∧ g.srid = none := by
  constructor
  · intro h
    unfold ofCoordinates at h
    split at h
    · next sound =>
      cases h
      exact ⟨(flaw?_eq_none_iff.mp sound).wellFormed, rfl, rfl, rfl⟩
    · cases h
  · obtain ⟨kind', coordinates', srid, valid⟩ := g
    rintro ⟨h, rfl, rfl, rfl⟩
    exact ofCoordinates_eq_ok valid

/-- Coordinates of finite numbers are written as what numbers and lists make up. -/
theorem Coordinates.nest_of_finite {α : Type} {P : α → Prop} {number : Binary64 → α}
    {list : List α → α} (hn : ∀ x, P (number (.finite x)))
    (hl : ∀ items, (∀ item ∈ items, P item) → P (list items)) {coordinates : Coordinates}
    (hf : ∀ p ∈ coordinates.positions, p.isFinite = true) : P (coordinates.nest number list) := by
  have ofMap {β : Type} {write : β → α} {bs : List β} (h : ∀ b ∈ bs, P (write b)) :
      P (list (bs.map write)) := by
    apply hl
    intro item hm
    obtain ⟨b, hb, rfl⟩ := List.mem_map.mp hm
    exact h b hb
  have ofPosition : ∀ p : Position, p.isFinite = true → P (nest.ofPosition number list p) := by
    rintro ⟨x, y⟩ h
    cases x <;> cases y <;> simp only [Position.isFinite, Binary64.isFinite, Bool.and_true,
      Bool.and_false, Bool.false_eq_true] at h
    apply hl
    intro item hm
    simp only [List.mem_cons, List.not_mem_nil, or_false] at hm
    rcases hm with rfl | rfl <;> exact hn _
  have ofPath : ∀ ps : List Position, (∀ p ∈ ps, p.isFinite = true) →
      P (nest.ofPath number list ps) := fun ps h => ofMap fun p hp => ofPosition p (h p hp)
  cases coordinates with
  | position p => exact ofPosition p (hf p (.head _))
  | path ps => exact ofPath ps hf
  | paths pss =>
    exact ofMap fun ps hps => ofPath ps fun p hp => hf p (List.mem_flatten.mpr ⟨ps, hps, hp⟩)
  | groups psss =>
    refine ofMap fun pss hpss => ofMap fun ps hps => ofPath ps fun p hp => hf p ?_
    exact List.mem_flatten.mpr ⟨ps, List.mem_flatten.mpr ⟨pss, hpss, hps⟩, hp⟩

end Geometry

/-- JSON without null in it. -/
inductive Json.NullFree : Json → Prop where
  | bool (b : Bool) : NullFree (.bool b)
  | number (n : Json.Number) : NullFree (.number n)
  | string (s : String) : NullFree (.string s)
  | array {items : List Json} (h : ∀ item ∈ items, NullFree item) : NullFree (.array items)
  | object {members : List (String × Json)} (h : ∀ member ∈ members, NullFree member.2) :
    NullFree (.object members)

namespace Geometry

/-- The names in the serialized form: that of the reference id only where there is one. -/
theorem members_names (g : Geometry) :
    g.members.map Prod.fst = ["type", "coordinates"] ++ if g.srid.isSome then ["crs"] else [] := by
  obtain ⟨kind, coordinates, srid, valid⟩ := g
  cases srid <;> rfl

/-- A number that is not finite would be written as null. -/
theorem WellFormed.toJson_nullFree {g : Geometry} (h : WellFormed g.kind g.coordinates) :
    g.toJson.NullFree := by
  apply Json.NullFree.object
  intro member hm
  simp only [List.mem_append, List.mem_cons, List.not_mem_nil, or_false, Option.mem_toList,
    Option.map_eq_some_iff] at hm
  rcases hm with (rfl | rfl) | ⟨srid, _, rfl⟩
  · exact .string _
  · exact Coordinates.nest_of_finite (fun x => .number _) (fun items => .array) h.valid.finite
  · exact .number _

end Geometry

namespace GeometryInput

open SpatialQuery.Geometry (Kind Nested)

/-- What is built from fields has passed the rules of its kind. -/
theorem wellFormed_of_build {kind : Kind} {nested : Option Nested} {srid : Option Int32} {g : Geometry}
    (h : build kind nested srid = .ok g) : Geometry.WellFormed g.kind g.coordinates := by
  cases nested with
  | none => cases h
  | some nested =>
    obtain ⟨coordinates, _, h⟩ := Outcome.bind_eq_ok_iff.mp h
    obtain ⟨built, hb, h⟩ := Outcome.bind_eq_ok_iff.mp h
    cases h
    obtain ⟨sound, hk, hc, _⟩ := Geometry.ofCoordinates_eq_ok_iff.mp (Outcome.mapError_eq_ok_iff.mp hb)
    change Geometry.WellFormed built.kind built.coordinates
    rw [hk, hc]
    exact sound

theorem wellFormed_of_assemble {kind : Kind} {name : Except Flaw (Option String)}
    {nested : Except Flaw (Option Nested)} {srid : Except Flaw (Option Int32)} {g : Geometry}
    (h : assemble kind name nested srid = .ok g) : Geometry.WellFormed g.kind g.coordinates := by
  obtain ⟨_, _, _, _, _, hb⟩ := assemble_eq_ok_iff.mp h
  exact wellFormed_of_build hb

end GeometryInput
end SpatialQuery
