import SpatialQuery.Proofs.Binary64.Nearest
import SpatialQuery.Proofs.Geometry.Lowering

namespace SpatialQuery

/-- A JSON number and a binary64 number that are equal. -/
inductive Json.Number.Equals : Json.Number → Binary64.Finite → Prop where
  | float (x : Binary64.Finite) : Equals (.float x) x
  | integer {value : Int} {lower : -0x8000000000000000 ≤ value} {upper : value < 0x10000000000000000}
    {x : Binary64.Finite} (sign : x.negative = decide (value < 0))
    (magnitude : value.natAbs * x.denominator = x.numerator) : Equals (.integer value lower upper) x

/-- A number is read as the binary64 number that it is equal to, if there is one. -/
theorem Json.Number.Equals.toBinary64_eq {n : Json.Number} {x : Binary64.Finite} (h : n.Equals x) :
    n.toBinary64 = .finite x := by
  cases h with
  | float => rfl
  | @integer value _ _ _ sign magnitude =>
    have ratio : value.natAbs * x.denominator = x.numerator * 1 := by rw [magnitude, Nat.mul_one]
    calc Binary64.ofInt value
        = .ofRatio x.negative value.natAbs 1 := by rw [sign, Binary64.ofInt]
      _ = .ofRatio x.negative x.numerator x.denominator :=
          Binary64.ofRatio_eq_of_mul_eq _ Nat.one_ne_zero x.denominator_ne_zero ratio
      _ = .finite x := x.ofRatio_self

namespace Primitive

/-- The literal of a normal form, and none where `toLiteral` would fall back on zero or on null. -/
def exactLiteral? (p : Primitive) : Json → Option Literal
  | .bool b => some (.boolean b)
  | .number n =>
    if p = .float then n.toBinary64.finite?.map fun x => .float (.finite x) else n.int64?.map .int
  | .string s => some (.string s)
  | _ => none

/-- How each primitive type prints the JSON that it takes, with the number that is in it. -/
inductive Prints : Primitive → Json → Literal → Prop where
  | boolean (b : Bool) : Prints .boolean (.bool b) (.boolean b)
  | int {n : Int64} (lower : -0x80000000 ≤ n.toInt) (upper : n.toInt < 0x80000000) :
    Prints .int (.number (.ofInt64 n)) (.int n)
  /-- A number is the binary64 number that it is read as. -/
  | float {n : Json.Number} {x : Binary64.Finite} (h : n.toBinary64 = .finite x) :
    Prints .float (.number n) (.float (.finite x))
  | string (s : String) : Prints .string (.string s) (.string s)
  | idString (s : String) : Prints .id (.string s) (.string s)
  | idInt (n : Int64) :
    Prints .id (.number (.ofInt64 n)) (.string (String.ofList (Decimal.ofInt n.toInt)))

/-- A conversion to literals prints exactly what a primitive type takes, and falls back on nothing. -/
structure PrintsExactly (p : Primitive) (convert : Option Value → Coerced Literal) : Prop where
  prints : ∀ v literal, v.isNull = false →
    (convert (some v) = .ok literal ↔ ∃ j, v = .json j ∧ p.Prints j literal)
  exactly : ∀ v literal, v.isNull = false → convert (some v) = .ok literal →
    ∃ j r, v = .json j ∧ p.ofJson? j = some r ∧ p.exactLiteral? r = some literal
  notNull : ∀ v literal, v.isNull = false → convert (some v) = .ok literal → literal ≠ .null

variable {p : Primitive} {j r : Json} {literal : Literal}

theorem toLiteral_int (n : Int64) : toLiteral .int (.number (.ofInt64 n)) = .int n := by
  simp [toLiteral, Json.Number.int64?_ofInt64]

/-- In a normal form there is nothing to fall back for. -/
theorem exactLiteral?_of_ofJson? (h : p.ofJson? j = some r) :
    p.exactLiteral? r = some (p.toLiteral r) := by
  cases forms_of_ofJson? h with
  | int => simp [exactLiteral?, toLiteral_int, Json.Number.int64?_ofInt64]
  | boolean | float | string | idString | idInt => rfl

theorem prints_of_ofJson? (h : p.ofJson? j = some r) : p.Prints j (p.toLiteral r) := by
  cases forms_of_ofJson? h with
  | boolean b => exact .boolean b
  | @int n fits =>
    rw [int32?, Option.ite_none_right_eq_some] at fits
    rw [toLiteral_int]
    exact .int fits.1.1 fits.1.2
  | float finite => exact .float finite
  | string s => exact .string s
  | idString s => exact .idString s
  | idInt n => exact .idInt n

theorem Prints.exists_ofJson? (h : p.Prints j literal) :
    ∃ r, p.ofJson? j = some r ∧ p.toLiteral r = literal := by
  cases h with
  | boolean | string | idString => exact ⟨_, rfl, rfl⟩
  | @int n lower upper =>
    refine ⟨.number (.ofInt64 n), ?_, toLiteral_int n⟩
    simp [ofJson?, Json.Number.int64?_ofInt64, int32?, lower, upper]
  | @float n x h =>
    refine ⟨.number (.float x), ?_, rfl⟩
    rw [ofJson?, h]
    rfl
  | idInt n =>
    refine ⟨idOfInt n, ?_, rfl⟩
    rw [ofJson?, Json.Number.int64?_ofInt64]
    rfl

theorem Prints.ne_null (h : p.Prints j literal) : literal ≠ .null := by
  cases h <;> exact nofun

theorem parseValue_eq_ok_iff {v : Value} (hv : v.isNull = false) :
    p.scalar.parseValue (some v) = .ok literal ↔
      ∃ j r, v = .json j ∧ p.ofJson? j = some r ∧ p.toLiteral r = literal := by
  simp only [p.parseValue_present hv, Outcome.map_eq_ok_iff, p.normalize_eq_ok_iff]
  constructor
  · rintro ⟨r, ⟨j, rfl, hr⟩, hl⟩
    exact ⟨j, r, rfl, hr, hl⟩
  · rintro ⟨j, r, rfl, hr, hl⟩
    exact ⟨r, ⟨j, rfl, hr⟩, hl⟩

theorem printsExactly_parseValue (p : Primitive) : p.PrintsExactly p.scalar.parseValue := by
  have prints (v : Value) (literal : Literal) (hv : v.isNull = false) :
      p.scalar.parseValue (some v) = .ok literal ↔ ∃ j, v = .json j ∧ p.Prints j literal := by
    rw [parseValue_eq_ok_iff hv]
    constructor
    · rintro ⟨j, r, rfl, hr, rfl⟩
      exact ⟨j, rfl, prints_of_ofJson? hr⟩
    · rintro ⟨j, rfl, h⟩
      obtain ⟨r, hr, hl⟩ := h.exists_ofJson?
      exact ⟨j, r, rfl, hr, hl⟩
  refine ⟨prints, fun v literal hv printed => ?_, fun v literal hv printed => ?_⟩
  · obtain ⟨j, r, rfl, hr, rfl⟩ := (parseValue_eq_ok_iff hv).mp printed
    exact ⟨j, r, rfl, hr, exactLiteral?_of_ofJson? hr⟩
  · obtain ⟨j, rfl, h⟩ := (prints v literal hv).mp printed
    exact h.ne_null

end Primitive

open SpatialQuery.Geometry (Kind Nested)

/-- Coordinates that are found for a kind have its depth and only finite numbers, since no other numbers
pass from a literal. So building a geometry of them fails for want of coordinates, at their shape, at a
line or at a ring, and never by its own checks of depth and numbers. Each primitive type prints what it
takes as what it is: no number is made up and no null is put for it, and as a float a number is printed
as the binary64 number that it is equal to, if there is one. -/
theorem fallbacks_unreached :
    (∀ kind : Kind,
      (∀ coordinates, (∃ nested : Nested, nested.coordinates kind = .ok coordinates) ↔
        coordinates.depth = kind.depth ∧ ∀ p ∈ coordinates.positions, p.isFinite = true) ∧
      (∀ flaw, (∃ nested srid, GeometryInput.build kind nested srid = .error flaw) ↔
        flaw.OfBuild kind) ∧
      (∀ literal broken, GeometryInput.geometryOfLiteral kind literal = .error (.geometry broken) →
        broken.OfPaths kind) ∧
      ∀ members broken, GeometryInput.geometryOfMembers kind members = .error (.geometry broken) →
        broken.OfPaths kind) ∧
    (∀ literal nested, Nested.ofLiteral literal = .ok nested →
      ∀ x, literal.Numbers x → x.isFinite = true) ∧
    (∀ p : Primitive, p.PrintsExactly p.scalar.parseValue ∧ p.PrintsExactly p.scalar.parseResult) ∧
    ∀ n x, Json.Number.Equals n x → Primitive.float.Prints (.number n) (.float (.finite x)) := by
  refine ⟨fun kind => ⟨fun coordinates => ?_, fun flaw => ?_, fun literal broken => ?_,
    fun members broken => ?_⟩, fun literal nested lowered x => ?_, fun p => ?_, fun n x equal => ?_⟩
  · exact Nested.exists_coordinates_eq_ok_iff
  · exact GeometryInput.exists_build_eq_error_iff
  · exact GeometryInput.ofPaths_of_geometryOfLiteral
  · exact GeometryInput.ofPaths_of_geometryOfMembers
  · exact Nested.finite_of_ofLiteral lowered
  · exact ⟨p.printsExactly_parseValue, p.printsExactly_parseValue⟩
  · exact .float equal.toBinary64_eq

/-- An open ring in coordinates of four is refused as such by the type of polygons, and a line without
positions by that of lines. The least integer and an identifier are printed with their own numbers, and
a whole number as a float is the number that it is equal to. -/
theorem fallbacks_unreached_ring :
    let corner (x y : Int64) : Literal := .list [.int x, .int y]
    let ring : Literal := .list [.list [corner 0 0, corner 4 0, corner 4 4, corner 0 4]]
    let polygon : Literal := .object [("type", .enum "Polygon"), ("coordinates", ring)]
    let line : List (String × Json) := [("type", .string "LineString"), ("coordinates", .array [])]
    (GeometryInput.geometryOfLiteral .polygon polygon = .error (.geometry .openRing) ∧
      Geometry.Flaw.OfPaths .polygon .openRing) ∧
    (GeometryInput.geometryOfMembers .lineString line = .error (.geometry (.shortLine 0)) ∧
      Geometry.Flaw.OfPaths .lineString (.shortLine 0)) ∧
    ((∃ nested, Nested.ofLiteral ring = .ok nested) ∧ (Binary64.ofInt 4).isFinite = true) ∧
    Primitive.int.scalar.parseValue (some (.json (.number (.ofInt64 (-0x80000000))))) =
      .ok (.int (-0x80000000)) ∧
    (∃ literal, Primitive.id.scalar.parseResult (some (.json (.number (.ofInt64 7)))) = .ok literal ∧
      literal ≠ .null) ∧
    ∃ one : Binary64.Finite, Primitive.float.Prints (.number (.ofInt64 1)) (.float (.finite one)) := by
  intro corner ring polygon line
  obtain ⟨geometries, lowered, prints, floats⟩ := fallbacks_unreached
  have refused : GeometryInput.geometryOfLiteral .polygon polygon = .error (.geometry .openRing) := rfl
  have short : GeometryInput.geometryOfMembers .lineString line = .error (.geometry (.shortLine 0)) := rfl
  have four : ring.Numbers (.ofInt 4) :=
    .list (.head _) (.list (.tail _ (.head _)) (.list (.head _) (.int 4)))
  have identified : Primitive.id.scalar.parseResult (some (.json (.number (.ofInt64 7)))) =
      .ok (.string "7") := rfl
  refine ⟨⟨refused, (geometries .polygon).2.2.1 _ _ refused⟩,
    ⟨short, (geometries .lineString).2.2.2 _ _ short⟩, ⟨⟨_, rfl⟩, lowered ring _ rfl _ four⟩, ?_,
    ⟨_, identified, ?_⟩, ?_⟩
  · have own : Primitive.int.Prints (.number (.ofInt64 (-0x80000000))) (.int (-0x80000000)) :=
      .int (by decide) (by decide)
    exact ((prints .int).1.prints _ _ rfl).mpr ⟨_, rfl, own⟩
  · exact (prints .id).2.notNull _ _ rfl identified
  · exact ⟨⟨false, 0x3FF0000000000000⟩, floats _ _ (.integer (by decide) (by decide))⟩

end SpatialQuery
