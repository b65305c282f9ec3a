import SpatialQuery.Proofs.Geometry.Grammar

namespace SpatialQuery

open SpatialQuery.Geometry (Kind Nested Coordinates Position)

/-- The numbers in a literal, at any depth inside lists. -/
inductive Literal.Numbers : Literal → Binary64 → Prop where
  | int (n : Int64) : Numbers (.int n) (.ofInt n.toInt)
  | float (x : Binary64) : Numbers (.float x) x
  | list {items : List Literal} {item : Literal} {x : Binary64} (hm : item ∈ items)
    (h : Numbers item x) : Numbers (.list items) x

namespace Geometry

namespace Nested

variable {β : Type} {shape : Nested → Except Flaw β} {nested : Nested} {flaw : Flaw} {kind : Kind}

/-- Only finite numbers pass from a literal into nested lists. -/
theorem finite_of_ofLiteral {literal : Literal} (h : ofLiteral literal = .ok nested) {x : Binary64}
    (hx : literal.Numbers x) : x.isFinite = true := by
  induction hx generalizing nested with
  | int n =>
    obtain ⟨y, hy, _⟩ := ofNumber_eq_ok_iff.mp h
    rw [hy]
    rfl
  | float x =>
    obtain ⟨y, hy, _⟩ := ofNumber_eq_ok_iff.mp h
    rw [hy]
    rfl
  | list hm _ ih =>
    rw [ofLiteral, ofLiterals_eq_mapM] at h
    obtain ⟨items, read, _⟩ := Outcome.map_eq_ok_iff.mp h
    obtain ⟨item, read⟩ := Outcome.exists_mapM_eq_ok_iff.mp ⟨items, read⟩ _ hm
    exact ih read

/-- The flaws of nested lists where coordinates are looked for. All others are found before. -/
inductive Flaw.OfShape : Flaw → Prop where
  | notList : OfShape .notList
  | tooDeep : OfShape .tooDeep
  | positionLength {found : Nat} (h : found ≠ 2) : OfShape (.positionLength found)

theorem ofShape_of_position (h : nested.position = .error flaw) : flaw.OfShape := by
  unfold position at h
  split at h
  · cases h
    exact .notList
  · cases h
  · next items other =>
    split at h
    · cases h
      exact .tooDeep
    · next flat =>
      -- Two items that are no lists are two numbers, and these are a position.
      cases h
      refine .positionLength fun two => ?_
      obtain ⟨a, b, rfl⟩ := List.length_eq_two.mp two
      cases a with
      | list => exact flat rfl
      | number x =>
        cases b with
        | list => exact flat rfl
        | number y => exact other x y rfl

/-- A list fails by its own shape or by that of an item. -/
theorem ofShape_of_list (hs : ∀ nested flaw, shape nested = .error flaw → flaw.OfShape)
    (h : (nested.items >>= (·.mapM shape)) = .error flaw) : flaw.OfShape := by
  rcases Outcome.bind_eq_error_iff.mp h with h | ⟨items, _, h⟩
  · cases nested with
    | number x =>
      cases h
      exact .notList
    | list items => cases h
  · obtain ⟨_, item, _, _, _, h⟩ := Outcome.mapM_eq_error_iff.mp h
    exact hs item flaw h

theorem ofShape_of_path (h : nested.path = .error flaw) : flaw.OfShape :=
  ofShape_of_list (fun _ _ => ofShape_of_position) h

theorem ofShape_of_paths (h : nested.paths = .error flaw) : flaw.OfShape :=
  ofShape_of_list (fun _ _ => ofShape_of_path) h

theorem ofShape_of_groups (h : nested.groups = .error flaw) : flaw.OfShape :=
  ofShape_of_list (fun _ _ => ofShape_of_paths) h

theorem ofShape_of_coordinates (h : nested.coordinates kind = .error flaw) : flaw.OfShape := by
  cases kind with
  | point => exact ofShape_of_position (Outcome.map_eq_error_iff.mp h)
  | multiPoint | lineString => exact ofShape_of_path (Outcome.map_eq_error_iff.mp h)
  | multiLineString | polygon => exact ofShape_of_paths (Outcome.map_eq_error_iff.mp h)
  | multiPolygon => exact ofShape_of_groups (Outcome.map_eq_error_iff.mp h)

theorem list_singleton_eq_error (h : shape nested = .error flaw) :
    ((list [nested]).items >>= (·.mapM shape)) = .error flaw := by
  rw [items, Outcome.ok_bind, Outcome.mapM_singleton, h]
  rfl

/-- What is wrong with a position is wrong with the coordinates of any kind that have it alone. -/
theorem exists_coordinates_of_position (kind : Kind) (h : nested.position = .error flaw) :
    ∃ outer : Nested, outer.coordinates kind = .error flaw := by
  -- A list of one item is put around it for each level of the kind.
  have path : (list [nested]).path = .error flaw := list_singleton_eq_error h
  have paths : (list [list [nested]]).paths = .error flaw := list_singleton_eq_error path
  have groups : (list [list [list [nested]]]).groups = .error flaw := list_singleton_eq_error paths
  cases kind with
  | point => exact ⟨_, Outcome.map_eq_error_iff.mpr h⟩
  | multiPoint | lineString => exact ⟨_, Outcome.map_eq_error_iff.mpr path⟩
  | multiLineString | polygon => exact ⟨_, Outcome.map_eq_error_iff.mpr paths⟩
  | multiPolygon => exact ⟨_, Outcome.map_eq_error_iff.mpr groups⟩

theorem exists_position_of_ofShape (h : flaw.OfShape) :
    ∃ nested : Nested, nested.position = .error flaw := by
  let zero : Nested := .number ⟨false, 0⟩
  cases h with
  | notList => exact ⟨zero, rfl⟩
  | tooDeep => exact ⟨.list [.list []], rfl⟩
  | @positionLength found h =>
    refine ⟨.list (List.replicate found zero), ?_⟩
    match found, h with
    | 0, _ => rfl
    | 1, _ => rfl
    | n + 3, _ => simp [position, List.replicate_succ, isList, zero]

/-- Coordinates of every kind are looked for in vain in the same ways. -/
theorem exists_coordinates_eq_error_iff (kind : Kind) :
    (∃ nested : Nested, nested.coordinates kind = .error flaw) ↔ flaw.OfShape := by
  constructor
  · rintro ⟨nested, h⟩
    exact ofShape_of_coordinates h
  · intro h
    obtain ⟨nested, failed⟩ := exists_position_of_ofShape h
    exact exists_coordinates_of_position kind failed

theorem isFinite_of_position {p : Position} (h : nested.position = .ok p) : p.isFinite = true := by
  obtain ⟨x, y, _, rfl⟩ := position_eq_ok_iff.mp h
  rfl

/-- What the shape of each item gives, a list gives of all its items. -/
theorem forall_mem_of_list {P : β → Prop} {bs : List β}
    (hs : ∀ nested b, shape nested = .ok b → P b)
    (h : (nested.items >>= (·.mapM shape)) = .ok bs) : ∀ b ∈ bs, P b := by
  obtain ⟨items, _, mapped⟩ := Outcome.bind_eq_ok_iff.mp h
  intro b hb
  obtain ⟨item, _, read⟩ := Outcome.exists_of_mem_mapM mapped hb
  exact hs item b read

theorem isFinite_of_path {ps : List Position} (h : nested.path = .ok ps) :
    ∀ p ∈ ps, p.isFinite = true :=
  forall_mem_of_list (fun _ _ => isFinite_of_position) h

theorem isFinite_of_paths {pss : List (List Position)} (h : nested.paths = .ok pss) :
    ∀ ps ∈ pss, ∀ p ∈ ps, p.isFinite = true :=
  forall_mem_of_list (fun _ _ => isFinite_of_path) h

theorem isFinite_of_groups {psss : List (List (List Position))} (h : nested.groups = .ok psss) :
    ∀ pss ∈ psss, ∀ ps ∈ pss, ∀ p ∈ ps, p.isFinite = true :=
  forall_mem_of_list (fun _ _ => isFinite_of_paths) h

theorem depth_and_finite_of_coordinates {coordinates : Coordinates}
    (h : nested.coordinates kind = .ok coordinates) :
    coordinates.depth = kind.depth ∧ ∀ p ∈ coordinates.positions, p.isFinite = true := by
  cases kind with
  | point =>
    obtain ⟨p, read, rfl⟩ := Outcome.map_eq_ok_iff.mp h
    exact ⟨rfl, List.forall_mem_singleton.mpr (isFinite_of_position read)⟩
  | multiPoint | lineString =>
    obtain ⟨ps, read, rfl⟩ := Outcome.map_eq_ok_iff.mp h
    exact ⟨rfl, isFinite_of_path read⟩
  | multiLineString | polygon =>
    obtain ⟨pss, read, rfl⟩ := Outcome.map_eq_ok_iff.mp h
    exact ⟨rfl, List.forall_mem_flatten.mpr (isFinite_of_paths read)⟩
  | multiPolygon =>
    obtain ⟨psss, read, rfl⟩ := Outcome.map_eq_ok_iff.mp h
    refine ⟨rfl, List.forall_mem_flatten.mpr fun ps hps => ?_⟩
    obtain ⟨pss, hpss, hps⟩ := List.mem_flatten.mp hps
    exact isFinite_of_groups read pss hpss ps hps

/-- The coordinates that a kind may find in nested lists are those of its own depth that have finite
numbers only. -/
theorem exists_coordinates_eq_ok_iff {coordinates : Coordinates} :
    (∃ nested : Nested, nested.coordinates kind = .ok coordinates) ↔
      coordinates.depth = kind.depth ∧ ∀ p ∈ coordinates.positions, p.isFinite = true := by
  constructor
  · rintro ⟨nested, h⟩
    exact depth_and_finite_of_coordinates h
  · rintro ⟨depth, finite⟩
    obtain ⟨nested, _, h⟩ := reads_json.readsBack_nest depth finite
    exact ⟨nested, h⟩

end Nested

/-- The flaws of lines and rings, each with the kinds that have such paths. -/
inductive Flaw.OfPaths (kind : Kind) : Flaw → Prop where
  | shortLine {length : Nat} (hk : kind = .lineString ∨ kind = .multiLineString) (h : length < 2) :
    OfPaths kind (.shortLine length)
  | shortRing {length : Nat} (hk : kind = .polygon ∨ kind = .multiPolygon) (h : length < 4) :
    OfPaths kind (.shortRing length)
  | openRing (hk : kind = .polygon ∨ kind = .multiPolygon) : OfPaths kind .openRing

variable {kind : Kind} {coordinates : Coordinates} {flaw : Flaw}

theorem ofCoordinates_eq_error_iff :
    ofCoordinates kind coordinates = .error flaw ↔ flaw? kind coordinates = some flaw := by
  unfold ofCoordinates
  split
  · next sound => simp [sound]
  · next found => simp [found]

theorem kind_of_mem_lines {line : List Position} (h : line ∈ lines kind coordinates) :
    kind = .lineString ∨ kind = .multiLineString := by
  unfold lines at h
  split at h
  · exact .inl rfl
  · exact .inr rfl
  · cases h

theorem kind_of_mem_rings {ring : List Position} (h : ring ∈ rings kind coordinates) :
    kind = .polygon ∨ kind = .multiPolygon := by
  unfold rings at h
  split at h
  · exact .inl rfl
  · exact .inr rfl
  · cases h

/-- Coordinates of the right depth and of finite numbers have flaws of lines and rings only. -/
theorem flaw?_of_depth_of_finite (depth : coordinates.depth = kind.depth)
    (finite : ∀ p ∈ coordinates.positions, p.isFinite = true) :
    flaw? kind coordinates = ((lines kind coordinates).findSome? lineFlaw?).or
      ((rings kind coordinates).findSome? ringFlaw?) := by
  have all : coordinates.positions.any (!·.isFinite) = false := by simpa using finite
  rw [flaw?, if_neg (not_not_intro depth), all, if_neg Bool.false_ne_true]

theorem ofPaths_of_flaw? (depth : coordinates.depth = kind.depth)
    (finite : ∀ p ∈ coordinates.positions, p.isFinite = true)
    (h : flaw? kind coordinates = some flaw) : flaw.OfPaths kind := by
  rw [flaw?_of_depth_of_finite depth finite, Option.or_eq_some_iff] at h
  rcases h with h | ⟨_, h⟩
  · obtain ⟨line, hm, h⟩ := List.exists_of_findSome?_eq_some h
    rw [lineFlaw?, Option.ite_none_right_eq_some] at h
    obtain ⟨short, ⟨⟩⟩ := h
    exact .shortLine (kind_of_mem_lines hm) short
  · obtain ⟨ring, hm, h⟩ := List.exists_of_findSome?_eq_some h
    rw [ringFlaw?] at h
    split at h
    · next short =>
      cases h
      exact .shortRing (kind_of_mem_rings hm) short
    · split at h
      · cases h
      · cases h
        exact .openRing (kind_of_mem_rings hm)

theorem exists_flaw?_of_paths (coordinates : Coordinates) (depth : coordinates.depth = kind.depth)
    (finite : ∀ p ∈ coordinates.positions, p.isFinite = true)
    (h : ((lines kind coordinates).findSome? lineFlaw?).or
      ((rings kind coordinates).findSome? ringFlaw?) = some flaw) :
    ∃ coordinates : Coordinates, coordinates.depth = kind.depth ∧
      (∀ p ∈ coordinates.positions, p.isFinite = true) ∧ flaw? kind coordinates = some flaw :=
  ⟨coordinates, depth, finite, (flaw?_of_depth_of_finite depth finite).trans h⟩

/-- A flaw of one line is one of the coordinates that have this line alone. -/
theorem exists_flaw?_of_line (hk : kind = .lineString ∨ kind = .multiLineString) {line : List Position}
    (finite : ∀ p ∈ line, p.isFinite = true) (h : lineFlaw? line = some flaw) :
    ∃ coordinates : Coordinates, coordinates.depth = kind.depth ∧
      (∀ p ∈ coordinates.positions, p.isFinite = true) ∧ flaw? kind coordinates = some flaw := by
  have alone (others : Option Flaw) : ([line].findSome? lineFlaw?).or others = some flaw := by
    rw [List.findSome?_singleton, h, Option.some_or]
  rcases hk with rfl | rfl
  · exact exists_flaw?_of_paths (.path line) rfl finite (alone none)
  · have all : ∀ p ∈ [line].flatten, p.isFinite = true :=
      List.forall_mem_flatten.mpr (List.forall_mem_singleton.mpr finite)
    exact exists_flaw?_of_paths (.paths [line]) rfl all (alone none)

/-- A flaw of one ring is one of the coordinates that have this ring alone. -/
theorem exists_flaw?_of_ring (hk : kind = .polygon ∨ kind = .multiPolygon) {ring : List Position}
    (finite : ∀ p ∈ ring, p.isFinite = true) (h : ringFlaw? ring = some flaw) :
    ∃ coordinates : Coordinates, coordinates.depth = kind.depth ∧
      (∀ p ∈ coordinates.positions, p.isFinite = true) ∧ flaw? kind coordinates = some flaw := by
  have alone : Option.or none ([ring].findSome? ringFlaw?) = some flaw := by
    rw [List.findSome?_singleton, h, Option.none_or]
  have all : ∀ p ∈ [ring].flatten, p.isFinite = true :=
    List.forall_mem_flatten.mpr (List.forall_mem_singleton.mpr finite)
  rcases hk with rfl | rfl
  · exact exists_flaw?_of_paths (.paths [ring]) rfl all alone
  · exact exists_flaw?_of_paths (.groups [[ring]]) rfl all alone

/-- Coordinates of the right depth and of finite numbers have all the flaws of lines and rings, and
have no others. -/
theorem exists_flaw?_iff : (∃ coordinates : Coordinates, coordinates.depth = kind.depth ∧
    (∀ p ∈ coordinates.positions, p.isFinite = true) ∧ flaw? kind coordinates = some flaw) ↔
      flaw.OfPaths kind := by
  constructor
  · rintro ⟨coordinates, depth, finite, h⟩
    exact ofPaths_of_flaw? depth finite h
  · intro h
    let origin : Position := ⟨.finite ⟨false, 0⟩, .finite ⟨false, 0⟩⟩
    have finite (count : Nat) : ∀ p ∈ List.replicate count origin, p.isFinite = true := by
      intro p hp
      rw [List.eq_of_mem_replicate hp]
      rfl
    cases h with
    | @shortLine length hk short =>
      exact exists_flaw?_of_line hk (finite length) (by simp [lineFlaw?, short])
    | @shortRing length hk short =>
      exact exists_flaw?_of_ring hk (finite length) (by simp [ringFlaw?, short])
    | openRing hk =>
      let elsewhere : Position := ⟨.finite ⟨false, 1⟩, .finite ⟨false, 0⟩⟩
      have unclosed : ringFlaw? (elsewhere :: List.replicate 3 origin) = some .openRing := by decide
      exact exists_flaw?_of_ring hk (List.forall_mem_cons.mpr ⟨rfl, finite 3⟩) unclosed

end Geometry

namespace GeometryInput

variable {kind : Kind} {flaw : Flaw}

/-- What can keep coordinates that have been lowered, or are missing, from being a geometry of a kind. -/
inductive Flaw.OfBuild (kind : Kind) : Flaw → Prop where
  | coordinatesMissing : OfBuild kind .coordinatesMissing
  | nested {flaw : Nested.Flaw} (h : flaw.OfShape) : OfBuild kind (.nested flaw)
  | geometry {flaw : Geometry.Flaw} (h : flaw.OfPaths kind) : OfBuild kind (.geometry flaw)

theorem build_some_eq_error_iff {nested : Nested} {srid : Option Int32} :
    build kind (some nested) srid = .error flaw ↔
      (∃ shape, nested.coordinates kind = .error shape ∧ .nested shape = flaw) ∨
        ∃ coordinates, nested.coordinates kind = .ok coordinates ∧
          ∃ broken, Geometry.flaw? kind coordinates = some broken ∧ .geometry broken = flaw := by
  change ((nested.coordinates kind).mapError Flaw.nested >>= fun coordinates =>
    (Geometry.ofCoordinates kind coordinates).mapError Flaw.geometry >>= fun g =>
      pure (g.withSrid srid)) = .error flaw ↔ _
  simp only [Outcome.bind_pure_eq_map, Outcome.bind_eq_error_iff, Outcome.map_eq_error_iff,
    Outcome.mapError_eq_error_iff, Outcome.mapError_eq_ok_iff, Geometry.ofCoordinates_eq_error_iff]

/-- Building a geometry fails in these ways and in no others. -/
theorem exists_build_eq_error_iff :
    (∃ nested srid, build kind nested srid = .error flaw) ↔ flaw.OfBuild kind := by
  constructor
  · rintro ⟨nested, srid, h⟩
    cases nested with
    | none =>
      cases h
      exact .coordinatesMissing
    | some nested =>
      rcases build_some_eq_error_iff.mp h with ⟨shape, hs, rfl⟩ | ⟨coordinates, hc, broken, hb, rfl⟩
      · exact .nested (Nested.ofShape_of_coordinates hs)
      · obtain ⟨depth, finite⟩ := Nested.depth_and_finite_of_coordinates hc
        exact .geometry (Geometry.ofPaths_of_flaw? depth finite hb)
  · intro h
    cases h with
    | coordinatesMissing => exact ⟨none, none, rfl⟩
    | nested h =>
      obtain ⟨nested, hs⟩ := (Nested.exists_coordinates_eq_error_iff kind).mpr h
      exact ⟨some nested, none, build_some_eq_error_iff.mpr (.inl ⟨_, hs, rfl⟩)⟩
    | geometry h =>
      obtain ⟨coordinates, depth, finite, hb⟩ := Geometry.exists_flaw?_iff.mpr h
      obtain ⟨nested, hc⟩ := Nested.exists_coordinates_eq_ok_iff.mpr ⟨depth, finite⟩
      exact ⟨some nested, none, build_some_eq_error_iff.mpr (.inr ⟨_, hc, _, hb, rfl⟩)⟩

/-- An outcome that is no flaw of a geometry, as the outcomes are of all that comes before building. -/
def Precedes {α : Type} (x : Except Flaw α) : Prop := ∀ broken, x ≠ .error (.geometry broken)

theorem Precedes.map {α β : Type} {x : Except Flaw α} (h : Precedes x) (f : α → β) :
    Precedes (x >>= fun a => pure (f a)) := by
  intro broken failed
  rw [Outcome.bind_pure_eq_map, Outcome.map_eq_error_iff] at failed
  exact h broken failed

theorem precedes_mapError {α : Type} (x : Except Nested.Flaw α) :
    Precedes (x.mapError Flaw.nested) := by
  intro broken failed
  obtain ⟨shape, _, ⟨⟩⟩ := Outcome.mapError_eq_error_iff.mp failed

theorem precedes_checkType (name : Option String) : Precedes (checkType kind name) := by
  cases name with
  | none => rintro _ ⟨⟩
  | some name =>
    rw [checkType]
    split <;> rintro _ ⟨⟩

theorem precedes_typeOfLiteral (literal : Literal) : Precedes (typeOfLiteral literal) := by
  unfold typeOfLiteral
  split <;> rintro _ ⟨⟩

theorem precedes_typeOfMembers (members : List (String × Json)) : Precedes (typeOfMembers members) := by
  unfold typeOfMembers
  split <;> rintro _ ⟨⟩

theorem precedes_nestedOfLiteral (literal : Literal) : Precedes (nestedOfLiteral literal) := by
  unfold nestedOfLiteral
  split
  · rintro _ ⟨⟩
  · rintro _ ⟨⟩
  · exact (precedes_mapError _).map some

theorem precedes_nestedOfMembers (members : List (String × Json)) :
    Precedes (nestedOfMembers members) := by
  unfold nestedOfMembers
  split
  · rintro _ ⟨⟩
  · rintro _ ⟨⟩
  · exact (precedes_mapError _).map some

theorem precedes_sridOf (n : Option Int64) : Precedes (sridOf n) := by
  cases n with
  | none => rintro _ ⟨⟩
  | some n =>
    rw [sridOf]
    split <;> rintro _ ⟨⟩

theorem precedes_sridOfLiteral (literal : Literal) : Precedes (sridOfLiteral literal) := by
  unfold sridOfLiteral
  split
  · rintro _ ⟨⟩
  · rintro _ ⟨⟩
  · exact (precedes_sridOf _).map some
  · exact (precedes_sridOf _).map some

theorem precedes_sridOfMembers (members : List (String × Json)) : Precedes (sridOfMembers members) := by
  unfold sridOfMembers
  split
  · rintro _ ⟨⟩
  · rintro _ ⟨⟩
  · exact (precedes_sridOf _).map some
  · exact (precedes_sridOf _).map some

/-- Where the fields are read without one, a flaw of a geometry is found in building it. -/
theorem ofPaths_of_assemble {name : Except Flaw (Option String)} {nested : Except Flaw (Option Nested)}
    {srid : Except Flaw (Option Int32)} (hn : Precedes name) (hc : Precedes nested)
    (hs : Precedes srid) {broken : Geometry.Flaw}
    (h : assemble kind name nested srid = .error (.geometry broken)) : broken.OfPaths kind := by
  rcases Outcome.bind_eq_error_iff.mp h with failed | ⟨found, _, h⟩
  · exact absurd failed (hn broken)
  rcases Outcome.bind_eq_error_iff.mp h with failed | ⟨_, _, h⟩
  · exact absurd failed (precedes_checkType found broken)
  rcases Outcome.bind_eq_error_iff.mp h with failed | ⟨lowered, _, h⟩
  · exact absurd failed (hc broken)
  rcases Outcome.bind_eq_error_iff.mp h with failed | ⟨id, _, h⟩
  · exact absurd failed (hs broken)
  cases exists_build_eq_error_iff.mp ⟨lowered, id, h⟩ with
  | geometry paths => exact paths

theorem ofPaths_of_geometryOfLiteral {literal : Literal} {broken : Geometry.Flaw}
    (h : geometryOfLiteral kind literal = .error (.geometry broken)) : broken.OfPaths kind :=
  ofPaths_of_assemble (precedes_typeOfLiteral literal) (precedes_nestedOfLiteral literal)
    (precedes_sridOfLiteral literal) h

theorem ofPaths_of_geometryOfMembers {members : List (String × Json)} {broken : Geometry.Flaw}
    (h : geometryOfMembers kind members = .error (.geometry broken)) : broken.OfPaths kind :=
  ofPaths_of_assemble (precedes_typeOfMembers members) (precedes_nestedOfMembers members)
    (precedes_sridOfMembers members) h

end GeometryInput
end SpatialQuery
